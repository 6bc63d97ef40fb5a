import Mathlib.Data.Multiset.Basic
import Mathlib.Logic.Function.Basic
import NetPlayer.Hls.RegistryRuns

/-!
# The network policy

What the server remembers about the upstream of each session's variants, fenced
by the generation the registry issued for the session. A hash map is its lookup
function, or the list of its entries where the code goes through them. A
`SystemTime` is a number of milliseconds.
-/

namespace NetPlayer.Hls

open Function

abbrev SystemTime := Nat

def retryingWindow : Nat := 30 * 1000
def cacheOnlyWindow : Nat := 30 * 1000
def degradeDuration : Nat := 120 * 1000
def slowResponseThreshold : Nat := 3 * 1000
def slowResponseDegradeCount : Nat := 2

inductive HlsWeakNetworkReason
  | slowUpstream
  | upstreamFailed
  deriving DecidableEq

structure HlsVariantNetworkState where
  consecutiveFailures : Nat
  consecutiveSlowResponses : Nat
  retryingUntil : Option SystemTime
  unhealthyUntil : Option SystemTime
  unhealthyReason : Option HlsWeakNetworkReason
  holdDegraded : Bool
  deriving DecidableEq

def HlsVariantNetworkState.default : HlsVariantNetworkState := ⟨0, 0, none, none, none, false⟩

variable (variant : HlsVariantNetworkState)

def HlsVariantNetworkState.isDegraded (now : SystemTime) : Bool :=
  variant.holdDegraded || variant.unhealthyUntil.any (now < ·)

structure HlsSessionNetworkState where
  variants : List (String × HlsVariantNetworkState)
  cacheOnlyUntil : Option SystemTime
  deriving DecidableEq

def HlsSessionNetworkState.default : HlsSessionNetworkState := ⟨[], none⟩

namespace HlsSessionNetworkState

variable (session : HlsSessionNetworkState)

def hasDegradedVariant (now : SystemTime) : Bool :=
  session.variants.any (·.2.isDegraded now)

def hasActiveState : Bool :=
  !session.variants.isEmpty || session.cacheOnlyUntil.isSome

/-- `variants.entry(variant_id).or_default()`, changed by `update`. -/
def updateVariant (variantId : String)
    (update : HlsVariantNetworkState → HlsVariantNetworkState) : HlsSessionNetworkState :=
  if session.variants.any (·.1 == variantId) then
    { session with
      variants := session.variants.map fun entry =>
        if entry.1 = variantId then (entry.1, update entry.2) else entry }
  else
    { session with variants := session.variants ++ [(variantId, update .default)] }

end HlsSessionNetworkState

structure HlsNetworkPolicyState where
  sessionGenerations : String → Option Nat
  sessions : String → Option HlsSessionNetworkState
  lastChangedAt : Option SystemTime

def HlsNetworkPolicyState.default : HlsNetworkPolicyState where
  sessionGenerations := fun _ => none
  sessions := fun _ => none
  lastChangedAt := none

def pruneVariant (now : SystemTime) : HlsVariantNetworkState :=
  let variant := { variant with retryingUntil := variant.retryingUntil.filter (now < ·) }
  if !variant.holdDegraded && variant.unhealthyUntil.any (· ≤ now) then
    { variant with
      unhealthyUntil := none
      unhealthyReason := none
      consecutiveFailures := 0
      consecutiveSlowResponses := 0 }
  else variant

def pruneSessionState (session : HlsSessionNetworkState) (now : SystemTime) :
    HlsSessionNetworkState :=
  let variants := session.variants.filterMap fun entry =>
    let variant := pruneVariant entry.2 now
    if variant.retryingUntil.isSome || variant.unhealthyUntil.isSome || variant.holdDegraded then
      some (entry.1, variant)
    else none
  let session := { session with variants := variants }
  { session with
    cacheOnlyUntil := session.cacheOnlyUntil.filter
      fun deadline => now < deadline && session.hasDegradedVariant now }

def pruned (session : HlsSessionNetworkState) (now : SystemTime) : Option HlsSessionNetworkState :=
  let session := pruneSessionState session now
  if session.hasActiveState then some session else none

namespace HlsNetworkPolicyState

def pruneSession (state : HlsNetworkPolicyState) (sessionId : String) (now : SystemTime) :
    HlsNetworkPolicyState :=
  { state with
    sessions := Function.update state.sessions sessionId
      ((state.sessions sessionId).bind (pruned · now)) }

def pruneExpired (state : HlsNetworkPolicyState) (now : SystemTime) : HlsNetworkPolicyState :=
  { state with sessions := fun sessionId => (state.sessions sessionId).bind (pruned · now) }

def variantMut (state : HlsNetworkPolicyState) (sessionId : String) (sessionGeneration : Nat)
    (variantId : String) (update : HlsVariantNetworkState → HlsVariantNetworkState) :
    Option HlsNetworkPolicyState :=
  let entered (state : HlsNetworkPolicyState) : HlsNetworkPolicyState :=
    { state with
      sessions := Function.update state.sessions sessionId
        (some (((state.sessions sessionId).getD .default).updateVariant variantId update)) }
  match state.sessionGenerations sessionId with
  | none =>
    some (entered { state with
      sessionGenerations :=
        Function.update state.sessionGenerations sessionId (some sessionGeneration)
      sessions := Function.update state.sessions sessionId none })
  | some current =>
    if current < sessionGeneration then
      some (entered { state with
        sessionGenerations :=
          Function.update state.sessionGenerations sessionId (some sessionGeneration)
        sessions := Function.update state.sessions sessionId none })
    else if current = sessionGeneration then some (entered state)
    else none

end HlsNetworkPolicyState

open HlsNetworkPolicyState

variable (weakNetworkPreference : WeakNetworkPreference)

def setVariantDegraded (now : SystemTime) : HlsVariantNetworkState :=
  if weakNetworkPreference = .holdDowngrade then
    { variant with holdDegraded := true, unhealthyUntil := none }
  else { variant with unhealthyUntil := some (now + degradeDuration) }

def recordVariantAt (state : HlsNetworkPolicyState) (weakNetworkPreference : WeakNetworkPreference)
    (sessionId : String) (sessionGeneration : Nat) (variantId : String) (now : SystemTime)
    (update : HlsVariantNetworkState → HlsVariantNetworkState) : HlsNetworkPolicyState :=
  if weakNetworkPreference = .avPlayerManaged then state
  else
    let state := state.pruneSession sessionId now
    match state.variantMut sessionId sessionGeneration variantId update with
    | none => state
    | some state => { state with lastChangedAt := some now }

def recordUpstreamRetryAtForPolicy (state : HlsNetworkPolicyState)
    (weakNetworkPreference : WeakNetworkPreference) (sessionId : String) (sessionGeneration : Nat)
    (variantId : String) (now : SystemTime) : HlsNetworkPolicyState :=
  recordVariantAt state weakNetworkPreference sessionId sessionGeneration variantId now
    fun variant => { variant with retryingUntil := some (now + retryingWindow) }

def recordUpstreamFailureAtForPolicy (state : HlsNetworkPolicyState)
    (weakNetworkPreference : WeakNetworkPreference) (sessionId : String) (sessionGeneration : Nat)
    (variantId : String) (now : SystemTime) : HlsNetworkPolicyState :=
  recordVariantAt state weakNetworkPreference sessionId sessionGeneration variantId now
    fun variant =>
      { setVariantDegraded
          { variant with
            consecutiveFailures := variant.consecutiveFailures + 1
            retryingUntil := some (now + retryingWindow) } weakNetworkPreference now with
        unhealthyReason := some .upstreamFailed }

def successfulVariant (responseTime : Nat) (now : SystemTime) (variant : HlsVariantNetworkState)
    : HlsVariantNetworkState :=
  let variant := { variant with consecutiveFailures := 0 }
  if slowResponseThreshold ≤ responseTime then
    let variant :=
      { variant with
        consecutiveSlowResponses := variant.consecutiveSlowResponses + 1
        retryingUntil := some (now + retryingWindow) }
    if slowResponseDegradeCount ≤ variant.consecutiveSlowResponses then
      { setVariantDegraded variant weakNetworkPreference now with
        unhealthyReason := some .slowUpstream }
    else variant
  else { variant with consecutiveSlowResponses := 0 }

def recordUpstreamSuccessAtForPolicy (state : HlsNetworkPolicyState)
    (weakNetworkPreference : WeakNetworkPreference) (sessionId : String) (sessionGeneration : Nat)
    (variantId : String) (responseTime : Nat) (now : SystemTime) : HlsNetworkPolicyState :=
  if weakNetworkPreference = .avPlayerManaged then state
  else
    let state := state.pruneSession sessionId now
    match state.variantMut sessionId sessionGeneration variantId
        (successfulVariant weakNetworkPreference responseTime now) with
    | none => state
    | some state =>
      { state with lastChangedAt := some now }.pruneSession sessionId now

def recordCacheHitAtForPolicy (state : HlsNetworkPolicyState)
    (weakNetworkPreference : WeakNetworkPreference) (sessionId : String) (sessionGeneration : Nat)
    (now : SystemTime) : HlsNetworkPolicyState :=
  if weakNetworkPreference = .avPlayerManaged then state
  else
    let state := state.pruneSession sessionId now
    if state.sessionGenerations sessionId ≠ some sessionGeneration then state
    else
      match state.sessions sessionId with
      | none => state
      | some session =>
        if !session.hasDegradedVariant now then state
        else
          { state with
            sessions := Function.update state.sessions sessionId
              (some { session with cacheOnlyUntil := some (now + cacheOnlyWindow) })
            lastChangedAt := some now }

def advanceSessionGenerationAt (state : HlsNetworkPolicyState) (sessionId : String)
    (generation : Nat) (now : SystemTime) : HlsNetworkPolicyState :=
  let state := state.pruneSession sessionId now
  if (state.sessionGenerations sessionId).all (· < generation) then
    { state with
      sessionGenerations := Function.update state.sessionGenerations sessionId (some generation)
      sessions := Function.update state.sessions sessionId none
      lastChangedAt := if (state.sessions sessionId).isSome then some now else state.lastChangedAt }
  else state

def removeSessionGenerationAt (state : HlsNetworkPolicyState) (sessionId : String)
    (generation : Nat) (now : SystemTime) : HlsNetworkPolicyState :=
  let state := state.pruneSession sessionId now
  if (state.sessionGenerations sessionId).any (· ≤ generation) then
    { state with
      sessionGenerations := Function.update state.sessionGenerations sessionId none
      sessions := Function.update state.sessions sessionId none
      lastChangedAt := if (state.sessions sessionId).isSome then some now else state.lastChangedAt }
  else state

def variantIsAdvertisableAtForPolicy (state : HlsNetworkPolicyState)
    (weakNetworkPreference : WeakNetworkPreference) (sessionId : String) (sessionGeneration : Nat)
    (variantId : String) (now : SystemTime) : HlsNetworkPolicyState × Bool :=
  if weakNetworkPreference = .avPlayerManaged then (state, true)
  else
    let state := state.pruneSession sessionId now
    if state.sessionGenerations sessionId ≠ some sessionGeneration then (state, true)
    else
      (state, ((state.sessions sessionId).bind
        fun session => session.variants.lookup variantId).all (!·.isDegraded now))

structure HlsNetworkPolicyRecorder where
  sessionId : String
  generation : Nat
  weakNetworkPreference : WeakNetworkPreference
  deriving DecidableEq

/-- What a recorder records once its registry has let it. -/
inductive PolicyRecord
  | cacheHit
  | upstreamRetry (variantId : String)
  | upstreamSuccess (variantId : String) (responseTime : Nat)
  | upstreamFailure (variantId : String)
  deriving DecidableEq

def HlsNetworkPolicyRecorder.record (recorder : HlsNetworkPolicyRecorder)
    (state : HlsNetworkPolicyState) (record : PolicyRecord) (now : SystemTime) :
    HlsNetworkPolicyState :=
  match record with
  | .cacheHit =>
    recordCacheHitAtForPolicy state recorder.weakNetworkPreference recorder.sessionId
      recorder.generation now
  | .upstreamRetry variantId =>
    recordUpstreamRetryAtForPolicy state recorder.weakNetworkPreference recorder.sessionId
      recorder.generation variantId now
  | .upstreamSuccess variantId responseTime =>
    recordUpstreamSuccessAtForPolicy state recorder.weakNetworkPreference recorder.sessionId
      recorder.generation variantId responseTime now
  | .upstreamFailure variantId =>
    recordUpstreamFailureAtForPolicy state recorder.weakNetworkPreference recorder.sessionId
      recorder.generation variantId now

/-- The call leaves every other session alone, keeps the session's generation or
sets it to `generation`, and holds no state without a generation. -/
structure Touches (sessionId : String) (generation : Nat) (before after : HlsNetworkPolicyState) :
    Prop where
  otherGenerations : ∀ other, other ≠ sessionId →
    after.sessionGenerations other = before.sessionGenerations other
  otherSessions : ∀ other, other ≠ sessionId → after.sessions other = before.sessions other
  generation : after.sessionGenerations sessionId = before.sessionGenerations sessionId ∨
    after.sessionGenerations sessionId = some generation
  owned : (∀ other, before.sessions other ≠ none → before.sessionGenerations other ≠ none) →
    after.sessions sessionId ≠ none → after.sessionGenerations sessionId ≠ none

variable {state : HlsNetworkPolicyState} {sessionId variantId : String} {generation : Nat}
  {now : SystemTime}

theorem pruneSession_other {other : String} (h : other ≠ sessionId) :
    (state.pruneSession sessionId now).sessions other = state.sessions other :=
  update_of_ne h _ _

theorem pruneSession_some {other : String}
    (h : (state.pruneSession sessionId now).sessions other ≠ none) : state.sessions other ≠ none := by
  by_cases ho : other = sessionId
  · rw [ho] at h ⊢
    intro hn
    apply h
    simp [pruneSession, hn]
  · rwa [pruneSession_other ho] at h

theorem touches_prune : Touches sessionId generation state (state.pruneSession sessionId now) := by
  constructor
  · intro other _
    rfl
  · intro other ho
    exact pruneSession_other ho
  · exact .inl rfl
  · intro howned hs
    exact howned sessionId (pruneSession_some hs)

theorem Touches.trans {first second third : HlsNetworkPolicyState}
    (h : Touches sessionId generation first second)
    (h' : Touches sessionId generation second third) :
    Touches sessionId generation first third := by
  constructor
  · intro other ho
    rw [h'.otherGenerations other ho, h.otherGenerations other ho]
  · intro other ho
    rw [h'.otherSessions other ho, h.otherSessions other ho]
  · rcases h'.generation with hk | hset
    · rw [hk]
      exact h.generation
    · exact .inr hset
  · intro howned
    apply h'.owned
    intro other hs
    by_cases ho : other = sessionId
    · rw [ho] at hs ⊢
      exact h.owned howned hs
    · rw [h.otherGenerations other ho]
      rw [h.otherSessions other ho] at hs
      exact howned other hs

theorem touches_changed (h : Touches sessionId generation state after) :
    Touches sessionId generation state { after with lastChangedAt := some now } :=
  { h with }

variable {update : HlsVariantNetworkState → HlsVariantNetworkState}

theorem variantMut_touches {after : HlsNetworkPolicyState}
    (h : state.variantMut sessionId generation variantId update = some after) :
    Touches sessionId generation state after := by
  unfold variantMut at h
  cases hcurr : state.sessionGenerations sessionId with
  | none =>
    simp only [hcurr, Option.some.injEq] at h
    subst h
    constructor
    · intro other ho
      simp [update_of_ne ho]
    · intro other ho
      simp [update_of_ne ho]
    · exact .inr (update_self _ _ _)
    · intro _ _
      simp
  | some current =>
    simp only [hcurr] at h
    split at h
    · cases h
      constructor
      · intro other ho
        simp [update_of_ne ho]
      · intro other ho
        simp [update_of_ne ho]
      · exact .inr (update_self _ _ _)
      · intro _ _
        simp
    · split at h
      · cases h
        constructor
        · intro other _
          rfl
        · intro other ho
          simp [update_of_ne ho]
        · exact .inl rfl
        · intro _ _
          simp [hcurr]
      · cases h

theorem recordVariantAt_touches {weakNetworkPreference : WeakNetworkPreference} :
    Touches sessionId generation state
      (recordVariantAt state weakNetworkPreference sessionId generation variantId now update) := by
  unfold recordVariantAt
  split
  · exact ⟨fun _ _ => rfl, fun _ _ => rfl, .inl rfl, fun h => h sessionId⟩
  simp only []
  split
  · exact touches_prune
  · rename_i after ha
    exact touches_changed (touches_prune.trans (variantMut_touches ha))

theorem record_touches (recorder : HlsNetworkPolicyRecorder) (record : PolicyRecord) :
    Touches recorder.sessionId recorder.generation state (recorder.record state record now) := by
  have hn : Touches recorder.sessionId recorder.generation state state :=
    ⟨fun _ _ => rfl, fun _ _ => rfl, .inl rfl, fun h => h _⟩
  cases record with
  | cacheHit =>
    simp only [HlsNetworkPolicyRecorder.record, recordCacheHitAtForPolicy]
    split
    · exact hn
    split
    · exact touches_prune
    split
    · exact touches_prune
    rename_i hgen session hs
    split
    · exact touches_prune
    have hprun : Touches recorder.sessionId recorder.generation state
        (state.pruneSession recorder.sessionId now) := touches_prune
    refine hprun.trans ⟨fun _ _ => rfl, ?_, .inl rfl, ?_⟩
    · intro other ho
      exact update_of_ne ho _ _
    · intro howned _
      exact howned _ (by rw [hs]; simp)
  | upstreamRetry variantId | upstreamFailure variantId => exact recordVariantAt_touches
  | upstreamSuccess variantId responseTime =>
    simp only [HlsNetworkPolicyRecorder.record, recordUpstreamSuccessAtForPolicy]
    split
    · exact hn
    split
    · exact touches_prune
    · rename_i after ha
      exact (touches_changed (touches_prune.trans (variantMut_touches ha))).trans touches_prune

end NetPlayer.Hls
