import NetPlayer.Hls.NetworkPolicy

/-!
# The fence between the registry and the network policy

Two stores behind two locks. A registration or a removal changes the registry and
then, still holding its write lock, the policy. A recorder holds the read lock
from the check of its generation until it has recorded. Anything that only takes
the policy's own lock may come in between.
-/

namespace NetPlayer.Hls

open Transition HlsNetworkPolicyState Multiset Function

/-- The `update` of a registration or removal that holds the registry's write lock. -/
inductive PolicyUpdate
  | advance (sessionId : String) (generation : Nat)
  | remove (sessionId : String) (generation : Nat)
  deriving DecidableEq

def PolicyUpdate.sessionId : PolicyUpdate → String
  | .advance sessionId _ => sessionId
  | .remove sessionId _ => sessionId

def PolicyUpdate.target : PolicyUpdate → Option Nat
  | .advance _ generation => some generation
  | .remove _ _ => none

def PolicyUpdate.apply (update : PolicyUpdate) (state : HlsNetworkPolicyState)
    (now : SystemTime) : HlsNetworkPolicyState :=
  match update with
  | .advance sessionId generation => advanceSessionGenerationAt state sessionId generation now
  | .remove sessionId generation => removeSessionGenerationAt state sessionId generation now

structure Stores where
  registry : HlsPlaybackRegistryInner
  policy : HlsNetworkPolicyState
  writer : Option PolicyUpdate
  readers : Multiset HlsNetworkPolicyRecorder

def Stores.started (registry : HlsPlaybackRegistryInner) : Stores :=
  ⟨registry, .default, none, 0⟩

inductive StoresEvent
  | register (session : HlsPlaybackSession) (scrub : Option (HlsPlaybackSession × Instant))
      (generation : Nat)
  | remove (sessionId : String)
  | update (update : PolicyUpdate) (now : SystemTime)
  | accept (recorder : HlsNetworkPolicyRecorder)
  | refuse (recorder : HlsNetworkPolicyRecorder)
  | record (recorder : HlsNetworkPolicyRecorder) (record : PolicyRecord) (now : SystemTime)
  | registry (event : RegistryEvent Unit)
  | advertise (weakNetworkPreference : WeakNetworkPreference) (sessionId : String)
      (generation : Nat) (variantId : String) (now : SystemTime)
  | snapshot (now : SystemTime)

def RegistryEvent.withoutUpdate {ε : Type} : RegistryEvent ε → Bool
  | .register _ _ _ => false
  | .remove _ => false
  | _ => true

inductive StoresStep : Stores → StoresEvent → Stores → Prop
  | register {w : Stores} {session scrub generation registry} (free : w.writer = none)
      (unread : w.readers = 0)
      (step : RegistryStep w.registry
        (.register session scrub generation : RegistryEvent Unit) registry) :
      StoresStep w (.register session scrub generation)
        { w with registry := registry, writer := some (.advance session.id generation) }
  | remove {w : Stores} {sessionId} (free : w.writer = none) (unread : w.readers = 0) :
      StoresStep w (.remove sessionId)
        { w with
          registry := (removeWithGenerationUpdate w.registry sessionId).1
          writer := (removeWithGenerationUpdate w.registry sessionId).2.map (.remove sessionId) }
  | update {w : Stores} {update now} (held : w.writer = some update) :
      StoresStep w (.update update now) { w with policy := update.apply w.policy now, writer := none }
  | accept {w : Stores} {recorder} (free : w.writer = none)
      (accepted : withNetworkPolicyUpdate w.registry recorder.sessionId recorder.generation = true) :
      StoresStep w (.accept recorder) { w with readers := recorder ::ₘ w.readers }
  | refuse {w : Stores} {recorder} (free : w.writer = none)
      (refused : withNetworkPolicyUpdate w.registry recorder.sessionId recorder.generation = false) :
      StoresStep w (.refuse recorder) w
  | record {w : Stores} {recorder rest record now} (admitted : w.readers = recorder ::ₘ rest) :
      StoresStep w (.record recorder record now)
        { w with policy := recorder.record w.policy record now, readers := rest }
  | registry {w : Stores} {event registry} (other : event.withoutUpdate = true)
      (free : w.writer = none) (unread : w.readers = 0 ∨ registry = w.registry)
      (step : RegistryStep w.registry event registry) :
      StoresStep w (.registry event) { w with registry := registry }
  | advertise {w : Stores} {preference sessionId generation variantId now} :
      StoresStep w (.advertise preference sessionId generation variantId now)
        { w with policy := (variantIsAdvertisableAtForPolicy w.policy preference sessionId
            generation variantId now).1 }
  | snapshot {w : Stores} {now} :
      StoresStep w (.snapshot now) { w with policy := w.policy.pruneExpired now }

def Fenced (registry : HlsPlaybackRegistryInner) (writer : Option PolicyUpdate)
    (policy : HlsNetworkPolicyState) (sessionId : String) : Prop :=
  ∀ generation, policy.sessionGenerations sessionId = some generation →
    registry.generations.lookup sessionId = some generation ∨
    (∃ fresh, writer = some (.advance sessionId fresh) ∧ generation < fresh) ∨
    writer = some (.remove sessionId generation)

structure StoresValid (w : Stores) : Prop where
  registry : RegistryValid w.registry
  fenced : ∀ sessionId, Fenced w.registry w.writer w.policy sessionId
  owned : ∀ sessionId, w.policy.sessions sessionId ≠ none →
    w.policy.sessionGenerations sessionId ≠ none
  readers : ∀ recorder ∈ w.readers,
    w.registry.generations.lookup recorder.sessionId = some recorder.generation
  exclusive : w.writer ≠ none → w.readers = 0
  updating : ∀ update ∈ w.writer,
    w.registry.generations.lookup update.sessionId = update.target

section

variable {w v : Stores} {event : StoresEvent} {policy : HlsNetworkPolicyState} {sessionId : String}
  {generation : Nat}

theorem StoresValid.touch (h : StoresValid w)
    (htouches : Touches sessionId generation w.policy policy)
    (hcurr : policy.sessionGenerations sessionId = w.policy.sessionGenerations sessionId ∨
      w.registry.generations.lookup sessionId = some generation)
    {readers : Multiset HlsNetworkPolicyRecorder} (hreaders : readers ≤ w.readers) :
    StoresValid { w with policy := policy, readers := readers } := by
  constructor
  · exact h.registry
  · intro other known hk
    by_cases ho : other = sessionId
    · rw [ho] at hk ⊢
      rcases hcurr with hkept | hreg
      · rw [hkept] at hk
        exact h.fenced sessionId known hk
      rcases htouches.generation with hkept | hset
      · rw [hkept] at hk
        exact h.fenced sessionId known hk
      · rw [hset] at hk
        cases hk
        exact .inl hreg
    · rw [htouches.otherGenerations other ho] at hk
      exact h.fenced other known hk
  · intro other hs
    by_cases ho : other = sessionId
    · rw [ho] at hs ⊢
      exact htouches.owned h.owned hs
    · rw [htouches.otherSessions other ho] at hs
      rw [htouches.otherGenerations other ho]
      exact h.owned other hs
  · intro recorder hrecorder
    exact h.readers recorder (mem_of_le hreaders hrecorder)
  · intro hwriter
    exact le_zero.mp (h.exclusive hwriter ▸ hreaders)
  · exact h.updating

structure Settles (update : PolicyUpdate) (before after : HlsNetworkPolicyState) : Prop where
  otherGenerations : ∀ other, other ≠ update.sessionId →
    after.sessionGenerations other = before.sessionGenerations other
  otherSessions : ∀ other, other ≠ update.sessionId → after.sessions other = before.sessions other
  generation : after.sessionGenerations update.sessionId = update.target
  owned : after.sessions update.sessionId ≠ none →
    after.sessionGenerations update.sessionId ≠ none

variable {now : SystemTime}

theorem advance_settles (hbeh : ∀ known, policy.sessionGenerations sessionId = some known →
      known < generation ∨ known = generation) :
    Settles (.advance sessionId generation) policy
      (advanceSessionGenerationAt policy sessionId generation now) := by
  by_cases hadvance : (policy.sessionGenerations sessionId).all (· < generation) = true
  · have hres : advanceSessionGenerationAt policy sessionId generation now =
        { policy.pruneSession sessionId now with
          sessionGenerations :=
            Function.update policy.sessionGenerations sessionId (some generation)
          sessions := Function.update (policy.pruneSession sessionId now).sessions sessionId none
          lastChangedAt := if ((policy.pruneSession sessionId now).sessions sessionId).isSome then
            some now else policy.lastChangedAt } := if_pos hadvance
    rw [hres]
    constructor
    · intro other ho
      exact update_of_ne ho _ _
    · intro other ho
      exact (update_of_ne ho _ _).trans (pruneSession_other ho)
    · exact update_self _ _ _
    · intro hsome
      exact absurd (update_self _ _ _) hsome
  · have hres : advanceSessionGenerationAt policy sessionId generation now =
        policy.pruneSession sessionId now := if_neg hadvance
    have hk : policy.sessionGenerations sessionId = some generation := by
      cases hk : policy.sessionGenerations sessionId with
      | none => simp [hk] at hadvance
      | some known =>
        rcases hbeh known hk with hlt | heq
        · simp [hk, hlt] at hadvance
        · rw [heq]
    rw [hres]
    refine ⟨fun _ _ => rfl, fun other ho => pruneSession_other ho, hk, ?_⟩
    intro _ hn
    have hs : policy.sessionGenerations sessionId = none := hn
    rw [hk] at hs
    cases hs

theorem remove_settles
    (hk : ∀ known, policy.sessionGenerations sessionId = some known → known = generation)
    (howned : policy.sessions sessionId ≠ none → policy.sessionGenerations sessionId ≠ none) :
    Settles (.remove sessionId generation) policy
      (removeSessionGenerationAt policy sessionId generation now) := by
  by_cases hremove : (policy.sessionGenerations sessionId).any (· ≤ generation) = true
  · have hres : removeSessionGenerationAt policy sessionId generation now =
        { policy.pruneSession sessionId now with
          sessionGenerations := Function.update policy.sessionGenerations sessionId none
          sessions := Function.update (policy.pruneSession sessionId now).sessions sessionId none
          lastChangedAt := if ((policy.pruneSession sessionId now).sessions sessionId).isSome then
            some now else policy.lastChangedAt } := if_pos hremove
    rw [hres]
    constructor
    · intro other ho
      exact update_of_ne ho _ _
    · intro other ho
      exact (update_of_ne ho _ _).trans (pruneSession_other ho)
    · exact update_self _ _ _
    · intro hs
      exact absurd (update_self _ _ _) hs
  · have hres : removeSessionGenerationAt policy sessionId generation now =
        policy.pruneSession sessionId now := if_neg hremove
    have hn : policy.sessionGenerations sessionId = none := by
      cases hcurr : policy.sessionGenerations sessionId with
      | none => rfl
      | some known => simp [hcurr, hk known hcurr] at hremove
    rw [hres]
    refine ⟨fun _ _ => rfl, fun other ho => pruneSession_other ho, hn, ?_⟩
    intro hs
    exact howned (pruneSession_some hs)

theorem update_settles (h : StoresValid w) {update : PolicyUpdate} (hh : w.writer = some update)
    : Settles update w.policy (update.apply w.policy now) := by
  have htarget := h.updating update hh
  cases update with
  | advance sessionId generation =>
    apply advance_settles
    intro known hk
    rcases h.fenced sessionId known hk with hcurr | ⟨fresh, hwriter, hlt⟩ | hwriter
    · have hreg : w.registry.generations.lookup sessionId = some generation := htarget
      rw [hreg] at hcurr
      exact .inr (Option.some.inj hcurr).symm
    · rw [hh] at hwriter
      cases hwriter
      exact .inl hlt
    · rw [hh] at hwriter
      cases hwriter
  | remove sessionId generation =>
    refine remove_settles ?_ (h.owned sessionId)
    intro known hk
    rcases h.fenced sessionId known hk with hcurr | ⟨fresh, hwriter, -⟩ | hwriter
    · have hreg : w.registry.generations.lookup sessionId = none := htarget
      rw [hreg] at hcurr
      cases hcurr
    · rw [hh] at hwriter
      cases hwriter
    · rw [hh] at hwriter
      cases hwriter
      rfl

theorem registry_generations_kept {ε : Type} {inner after : HlsPlaybackRegistryInner}
    {event : RegistryEvent ε} (hst : RegistryStep inner event after)
    (ho : event.withoutUpdate = true) : after.generations = inner.generations := by
  cases registry_step_effect hst with
  | registered | removed => cases ho
  | scrubbed | replaced | unchanged => rfl

theorem pruneExpired_some (h : (policy.pruneExpired now).sessions sessionId ≠ none) :
    policy.sessions sessionId ≠ none := by
  intro hn
  apply h
  simp [pruneExpired, hn]

theorem StoresValid.known_current (h : StoresValid w) (hfree : w.writer = none)
    (hk : w.policy.sessionGenerations sessionId = some generation) :
    w.registry.generations.lookup sessionId = some generation := by
  rcases h.fenced sessionId generation hk with hcurr | ⟨fresh, hwriter, -⟩ | hwriter
  · exact hcurr
  · rw [hfree] at hwriter
    cases hwriter
  · rw [hfree] at hwriter
    cases hwriter

theorem storesValid_remove (hfree : w.writer = none) (hunread : w.readers = 0)
    (h : StoresValid w) :
    StoresValid { w with
      registry := (removeWithGenerationUpdate w.registry sessionId).1
      writer := (removeWithGenerationUpdate w.registry sessionId).2.map (.remove sessionId) } := by
  constructor
  · exact registryValid_step (RegistryStep.remove (ε := Unit)) h.registry
  · intro other known hk
    have hcurr := h.known_current hfree hk
    by_cases ho : other = sessionId
    · right
      right
      rw [ho] at hcurr
      simp [removeWithGenerationUpdate, hcurr, ho]
    · left
      simp only [removeWithGenerationUpdate, lookup_erase_ite, if_neg ho]
      exact hcurr
  · exact h.owned
  · intro recorder hrecorder
    rw [hunread] at hrecorder
    exact absurd hrecorder (notMem_zero _)
  · intro _
    exact hunread
  · intro update hupdate
    obtain ⟨generation, -, rfl⟩ := Option.map_eq_some_iff.mp hupdate
    exact Finmap.lookup_erase _ _

theorem storesValid_update {update : PolicyUpdate} (hh : w.writer = some update)
    (h : StoresValid w) :
    StoresValid { w with policy := update.apply w.policy now, writer := none } := by
  have hsettles : Settles update w.policy (update.apply w.policy now) := update_settles h hh
  have htarget := h.updating update hh
  have hunread : w.readers = 0 := h.exclusive (by rw [hh]; simp)
  constructor
  · exact h.registry
  · intro other known hk
    left
    by_cases ho : other = update.sessionId
    · rw [ho] at hk ⊢
      rw [htarget, ← hsettles.generation]
      exact hk
    · rw [hsettles.otherGenerations other ho] at hk
      rcases h.fenced other known hk with hcurr | ⟨fresh, hwriter, -⟩ | hwriter
      · exact hcurr
      · rw [hh] at hwriter
        cases hwriter
        exact absurd rfl ho
      · rw [hh] at hwriter
        cases hwriter
        exact absurd rfl ho
  · intro other hs
    by_cases ho : other = update.sessionId
    · rw [ho] at hs ⊢
      exact hsettles.owned hs
    · rw [hsettles.otherSessions other ho] at hs
      rw [hsettles.otherGenerations other ho]
      exact h.owned other hs
  · exact h.readers
  · intro hwriter
    exact absurd rfl hwriter
  · intro update hupdate
    cases hupdate

theorem storesValid_step (hst : StoresStep w event v) (h : StoresValid w) : StoresValid v := by
  cases hst with
  | @register session scrub generation registry hfree hunread step =>
    have hregistry := registryValid_step step h.registry
    cases registry_step_effect step with
    | registered hfr _ =>
      constructor
      · exact hregistry
      · intro other known hk
        have hcurr := h.known_current hfree hk
        by_cases ho : other = session.id
        · right
          left
          have hle := h.registry.issued other known hcurr
          exact ⟨generation, by rw [ho], by omega⟩
        · left
          simp only [registered, lookup_insert_ite, if_neg ho]
          exact hcurr
      · exact h.owned
      · intro recorder hrecorder
        rw [hunread] at hrecorder
        exact absurd hrecorder (notMem_zero _)
      · intro _
        exact hunread
      · intro update hupdate
        cases hupdate
        exact Finmap.lookup_insert _
    | scrubbed hnamed => exact absurd hnamed id
    | unchanged hissues => exact absurd rfl (hissues session scrub generation)
  | remove hfree hunread => exact storesValid_remove hfree hunread h
  | update hh => exact storesValid_update hh h
  | @accept recorder hfree hacc =>
    refine ⟨h.registry, h.fenced, h.owned, ?_, ?_, h.updating⟩
    · intro admitted hadm
      rcases mem_cons.mp hadm with rfl | hold
      · simp only [withNetworkPolicyUpdate, Bool.and_eq_true, decide_eq_true_eq] at hacc
        exact hacc.1
      · exact h.readers admitted hold
    · intro hwriter
      exact absurd hfree hwriter
  | refuse => exact h
  | @record recorder rest record now hadm =>
    have hm : recorder ∈ w.readers := by
      rw [hadm]
      exact mem_cons_self _ _
    refine h.touch (record_touches recorder record) (.inr (h.readers recorder hm)) ?_
    rw [hadm]
    exact le_cons_self _ _
  | registry ho hfree hunread step =>
    have hkept := registry_generations_kept step ho
    constructor
    · exact registryValid_step step h.registry
    · intro other known hk
      simp only [hkept]
      exact h.fenced other known hk
    · exact h.owned
    · simp only [hkept]
      exact h.readers
    · exact h.exclusive
    · simp only [hkept]
      exact h.updating
  | @advertise preference sessionId generation variantId now =>
    have htouches : ∃ policy, Touches sessionId generation w.policy policy ∧
        policy.sessionGenerations = w.policy.sessionGenerations ∧
        (variantIsAdvertisableAtForPolicy w.policy preference sessionId generation variantId
          now).1 = policy := by
      unfold variantIsAdvertisableAtForPolicy
      split
      · exact ⟨_, ⟨fun _ _ => rfl, fun _ _ => rfl, .inl rfl, fun h => h sessionId⟩, rfl, rfl⟩
      simp only []
      split
      · exact ⟨_, touches_prune, rfl, rfl⟩
      · exact ⟨_, touches_prune, rfl, rfl⟩
    obtain ⟨policy, htouches, hgens, hres⟩ := htouches
    rw [hres]
    exact h.touch htouches (.inl (congrFun hgens sessionId)) le_rfl
  | snapshot =>
    refine ⟨h.registry, h.fenced, ?_, h.readers, h.exclusive, h.updating⟩
    intro other hs
    exact h.owned other (pruneExpired_some hs)

theorem storesValid_started {registry : HlsPlaybackRegistryInner} (h : RegistryValid registry) :
    StoresValid (.started registry) := by
  constructor
  · exact h
  · intro sessionId generation hk
    cases hk
  · intro sessionId hs
    exact absurd rfl hs
  · intro recorder hrecorder
    exact absurd hrecorder (notMem_zero _)
  · intro _
    rfl
  · intro update hupdate
    cases hupdate

end

/-- The policy keeps state only for registered sessions and their current
generation, apart from the session whose registration or removal is still under
way; and whatever a recorder records, it records for the current generation. -/
theorem network_policy_fenced {past : List (RegistryEvent Unit)}
    {registry : HlsPlaybackRegistryInner} (hpast : Run RegistryStep .default past registry)
    {events : List StoresEvent} {w : Stores} (hrun : Run StoresStep (.started registry) events w) :
    (∀ sessionId, (∀ update ∈ w.writer, update.sessionId ≠ sessionId) →
      (w.policy.sessionGenerations sessionId ≠ none ∨ w.policy.sessions sessionId ≠ none) →
      sessionId ∈ w.registry.sessions ∧
        w.policy.sessionGenerations sessionId = w.registry.generations.lookup sessionId) ∧
    (∀ {recorder record now v}, StoresStep w (.record recorder record now) v →
      w.registry.generations.lookup recorder.sessionId = some recorder.generation) ∧
    (∀ {recorder v}, StoresStep w (.accept recorder) v →
      w.registry.generations.lookup recorder.sessionId = some recorder.generation) ∧
    (∀ {recorder v}, StoresStep w (.refuse recorder) v → v.policy = w.policy) := by
  have h := hrun.invariant StoresValid storesValid_step
    (storesValid_started (registryValid_of_run hpast))
  refine ⟨?_, ?_, ?_, ?_⟩
  · intro sessionId hidle hstate
    have hgeneration : w.policy.sessionGenerations sessionId ≠ none := by
      rcases hstate with hknown | hsome
      · exact hknown
      · exact h.owned sessionId hsome
    obtain ⟨generation, hknown⟩ := Option.ne_none_iff_exists'.mp hgeneration
    rcases h.fenced sessionId generation hknown with hcurrent | ⟨fresh, hwriter, -⟩ | hwriter
    · refine ⟨(h.registry.sameKeys sessionId).mpr (Finmap.mem_of_lookup_eq_some hcurrent), ?_⟩
      rw [hknown, hcurrent]
    · exact absurd rfl (hidle _ hwriter)
    · exact absurd rfl (hidle _ hwriter)
  · intro recorder record now v hstep
    cases hstep with
    | record hadmitted =>
      apply h.readers
      rw [hadmitted]
      exact mem_cons_self _ _
  · intro recorder v hstep
    cases hstep with
    | accept _ haccepted =>
      simp only [withNetworkPolicyUpdate, Bool.and_eq_true, decide_eq_true_eq] at haccepted
      exact haccepted.1
  · intro recorder v hstep
    cases hstep
    rfl

def firstRegistered : Stores where
  registry := registered .default (sampleSession "session" "https://cdn/a") none 1
  policy := advanceSessionGenerationAt .default "session" 1 0
  writer := none
  readers := 0

theorem network_policy_fenced_registered :
    firstRegistered.policy.sessionGenerations "session" =
      firstRegistered.registry.generations.lookup "session" := by
  have hstep : RegistryStep .default
      (.register (sampleSession "session" "https://cdn/a") none 1 : RegistryEvent Unit)
      (registered .default (sampleSession "session" "https://cdn/a") none 1) := .register rfl
  have hrun : Run StoresStep (.started .default)
      [.register (sampleSession "session" "https://cdn/a") none 1,
        .update (.advance "session" 1) 0] firstRegistered :=
    Run.cons (.register rfl rfl hstep) (Run.single (.update rfl))
  exact ((network_policy_fenced (Run.nil _) hrun).1 "session" (by simp [firstRegistered])
    (.inl (by decide))).2

end NetPlayer.Hls
