import NetPlayer.RangeCache.Store

/-!
# Successions of manifests

What a publication keeps of the manifest that it replaces, and when a snapshot of
an earlier manifest passes the rebase tests against a later one.
-/

namespace NetPlayer.RangeCache

open List Option

def OriginsBound (manifest : PersistedRangeManifest) : Prop :=
  ∀ binding ∈ manifest.validatedOrigins, manifest.prefixSha256 = some binding.prefixSha256

structure Succeeds (old new : PersistedRangeManifest) : Prop where
  resourceId : new.resourceId = old.resourceId
  representation : new.representationDigest = old.representationDigest
  dataIdentity : new.dataIdentity = old.dataIdentity
  generation : old.generation ≤ new.generation
  prefixSha256 : ∀ digest, old.prefixSha256 = some digest → new.prefixSha256 = some digest
  bound : OriginsBound old → OriginsBound new
  origins : ∀ origin, (old.bindingOf origin).isSome → (new.bindingOf origin).isSome

def KeepsExtents (old new : PersistedRangeManifest) : Prop :=
  ∀ extent ∈ old.extents, extent ∈ new.extents

def KeepsBindings (old new : PersistedRangeManifest) : Prop :=
  ∀ origin binding, old.bindingOf origin = some binding → new.bindingOf origin = some binding

variable {old mid new : PersistedRangeManifest}

theorem Succeeds.refl (manifest : PersistedRangeManifest) : Succeeds manifest manifest where
  resourceId := rfl
  representation := rfl
  dataIdentity := rfl
  generation := le_rfl
  prefixSha256 := fun _ h => h
  bound := fun h => h
  origins := fun _ h => h

theorem Succeeds.trans (first : Succeeds old mid) (second : Succeeds mid new) :
    Succeeds old new where
  resourceId := second.resourceId.trans first.resourceId
  representation := second.representation.trans first.representation
  dataIdentity := second.dataIdentity.trans first.dataIdentity
  generation := le_trans first.generation second.generation
  prefixSha256 := fun digest h => second.prefixSha256 digest (first.prefixSha256 digest h)
  bound := fun h => second.bound (first.bound h)
  origins := fun origin h => second.origins origin (first.origins origin h)

theorem Succeeds.of_sameOrigins (resourceId : new.resourceId = old.resourceId)
    (representation : new.representationDigest = old.representationDigest)
    (dataIdentity : new.dataIdentity = old.dataIdentity)
    (generation : old.generation ≤ new.generation)
    (prefixSha256 : new.prefixSha256 = old.prefixSha256)
    (origins : new.validatedOrigins = old.validatedOrigins) : Succeeds old new where
  resourceId := resourceId
  representation := representation
  dataIdentity := dataIdentity
  generation := generation
  prefixSha256 := fun digest h => prefixSha256.trans h
  bound := by
    intro h binding hm
    rw [prefixSha256]
    exact h binding (origins ▸ hm)
  origins := by
    intro origin h
    unfold PersistedRangeManifest.bindingOf at h ⊢
    rwa [origins]

theorem KeepsBindings.of_sameOrigins (h : new.validatedOrigins = old.validatedOrigins) :
    KeepsBindings old new := by
  intro origin binding hbind
  unfold PersistedRangeManifest.bindingOf at hbind ⊢
  rwa [h]

variable {origins : List PersistedRangeOrigin} {binding : PersistedRangeOrigin}

theorem find_push (hlen : origins.length ≤ 64) (entry : PersistedRangeOrigin)
    {p : PersistedRangeOrigin → Bool} (h : origins.find? p = some binding) :
    ((origins ++ [entry]).take 64).find? p = some binding := by
  rw [take_append, take_of_length_le hlen, List.find?_append, h]
  rfl

variable {prefixSha256 : String} {strongEtag : Option String}

theorem mem_setFirst {origin : String}
    (h : binding ∈ bindOrigin.setFirst origin prefixSha256 strongEtag origins) :
    binding ∈ origins ∨ binding.prefixSha256 = prefixSha256 := by
  induction origins with
  | nil => cases h
  | cons first rest ih =>
    unfold bindOrigin.setFirst at h
    split at h
    · cases h with
      | head => exact .inr rfl
      | tail _ h => exact .inl (mem_cons_of_mem _ h)
    · cases h with
      | head => exact .inl mem_cons_self
      | tail _ h =>
        rcases ih h with h | h
        · exact .inl (mem_cons_of_mem _ h)
        · exact .inr h

theorem any_setFirst (origin prefixSha256 : String) (strongEtag : Option String)
    (origins : List PersistedRangeOrigin) (other : String) :
    (bindOrigin.setFirst origin prefixSha256 strongEtag origins).any
        (fun binding => binding.origin = other) =
      origins.any fun binding => binding.origin = other := by
  induction origins with
  | nil => rfl
  | cons first rest ih =>
    unfold bindOrigin.setFirst
    split
    · rfl
    · simp [ih]

theorem mem_bindOrigin {origin : String}
    (h : binding ∈ bindOrigin origin prefixSha256 strongEtag origins) :
    binding ∈ origins ∨ binding.prefixSha256 = prefixSha256 := by
  unfold bindOrigin at h
  split at h
  · exact mem_setFirst h
  have hm := mem_of_mem_take h
  rw [mem_append, mem_singleton] at hm
  rcases hm with hm | rfl
  · exact .inl hm
  · exact .inr rfl

theorem find_bindOrigin {origin : String} (hlen : origins.length ≤ 64) {other : String}
    (h : (origins.find? fun binding => binding.origin = other).isSome) :
    ((bindOrigin origin prefixSha256 strongEtag origins).find?
      fun binding => binding.origin = other).isSome := by
  unfold bindOrigin
  split
  · rw [List.find?_isSome, ← List.any_eq_true] at h ⊢
    rwa [any_setFirst]
  · obtain ⟨binding, hbind⟩ := isSome_iff_exists.mp h
    rw [find_push hlen _ hbind]
    rfl

theorem succeeds_bindOrigin {manifest next : PersistedRangeManifest} {origin prefixSha256 : String}
    (hlen : manifest.validatedOrigins.length ≤ 64)
    (hpref : manifest.prefixSha256 = some prefixSha256)
    (hn : next = { manifest with
      generation := next.generation
      validatedOrigins := bindOrigin origin prefixSha256 strongEtag manifest.validatedOrigins
      durableBytes := next.durableBytes })
    (hgen : manifest.generation ≤ next.generation) : Succeeds manifest next := by
  rw [hn]
  refine ⟨rfl, rfl, rfl, hgen, fun _ h => h, ?_, ?_⟩
  · intro hbd binding hm
    rcases mem_bindOrigin hm with hm | hs
    · exact hbd binding hm
    · rw [hs]
      exact hpref
  · intro other h
    exact find_bindOrigin hlen h

section

variable (manifest : PersistedRangeManifest) (range : ByteRange) (origin : String)
  (input : RangeExtentCommitInput)

theorem keepsBindings_bindStartup (hlen : manifest.validatedOrigins.length ≤ 64) :
    KeepsBindings manifest (bindStartup manifest range origin input) := by
  intro other binding hbind
  unfold bindStartup
  split
  · exact hbind
  dsimp only
  split
  · split
    · exact hbind
    · exact hbind
  · split
    · exact find_push hlen _ hbind
    · exact find_push hlen _ hbind

theorem succeeds_bindStartup (hlen : manifest.validatedOrigins.length ≤ 64) :
    Succeeds manifest (bindStartup manifest range origin input) := by
  have hk := keepsBindings_bindStartup manifest range origin input hlen
  have horigs : ∀ other, (manifest.bindingOf other).isSome →
      ((bindStartup manifest range origin input).bindingOf other).isSome := by
    intro other h
    obtain ⟨binding, hbind⟩ := isSome_iff_exists.mp h
    rw [hk other binding hbind]
    rfl
  revert horigs
  unfold bindStartup
  split
  · intro _
    exact Succeeds.refl manifest
  cases hpref : manifest.prefixSha256 with
  | some digest =>
    simp only [isSome_some, if_true, hpref]
    intro horigs
    refine ⟨rfl, rfl, rfl, le_rfl, fun _ h => hpref.symm.trans h, ?_, horigs⟩
    intro hbd binding hm
    have hm := mem_of_mem_take hm
    rw [mem_append, mem_singleton] at hm
    rcases hm with hm | rfl
    · exact hpref.symm.trans (hbd binding hm)
    · rfl
  | none =>
    intro horigs
    refine ⟨rfl, rfl, rfl, le_rfl, ?_, ?_, horigs⟩
    · intro digest h
      rw [hpref] at h
      cases h
    · -- no origin can have been bound without a prefix
      intro hbd binding hm
      have hm := mem_of_mem_take hm
      rw [mem_append, mem_singleton] at hm
      rcases hm with hm | rfl
      · have hn := hbd binding hm
        rw [hpref] at hn
        cases hn
      · rfl

end

theorem Succeeds.sameLineage (h : Succeeds old new)
    (htot : ∀ total, old.totalLength = some total → new.totalLength = some total) :
    sameLineage old new = true := by
  have hlineage : ∀ {α : Type} [DecidableEq α] (found found' : Option α),
      (∀ value, found = some value → found' = some value) →
        found.all (fun value => decide (found' = some value)) = true := by
    intro α _ found found' hkeep
    cases found with
    | none => rfl
    | some value => simp [hkeep value rfl]
  unfold NetPlayer.RangeCache.sameLineage
  simp [h.resourceId, h.representation, h.dataIdentity, h.generation,
    hlineage _ _ htot, hlineage _ _ h.prefixSha256]

theorem OriginsBound.bindingOf (h : OriginsBound old) {origin : String}
    (hbind : old.bindingOf origin = some binding) :
    old.prefixSha256 = some binding.prefixSha256 :=
  h binding (mem_of_find?_eq_some hbind)

theorem Succeeds.sameOrigins (h : Succeeds old new) (hbd : OriginsBound old)
    {entry : PersistedRangeOrigin} (he : entry ∈ old.validatedOrigins) :
    ∃ binding, new.bindingOf entry.origin = some binding ∧
      binding.prefixSha256 = entry.prefixSha256 := by
  have hs : (old.bindingOf entry.origin).isSome := by
    unfold PersistedRangeManifest.bindingOf
    rw [List.find?_isSome]
    exact ⟨entry, he, by simp⟩
  obtain ⟨binding, hbind⟩ := isSome_iff_exists.mp (h.origins _ hs)
  have hn := (h.bound hbd).bindingOf hbind
  have hold := h.prefixSha256 _ (hbd entry he)
  rw [hn] at hold
  exact ⟨binding, hbind, some.inj hold⟩

theorem Succeeds.extentPublication (h : Succeeds old new) (hbd : OriginsBound old)
    (htot : ∀ total, old.totalLength = some total → new.totalLength = some total)
    (hexts : KeepsExtents old new) {origin : String} {binding' : PersistedRangeOrigin}
    (hold : old.bindingOf origin = some binding) (hn : new.bindingOf origin = some binding')
    (hetag : binding'.strongEtag = binding.strongEtag) :
    rangeManifestRebaseCompatibleForExtentPublication old new origin = true := by
  have hpref : binding.prefixSha256 = binding'.prefixSha256 := by
    have hl := h.prefixSha256 _ (hbd.bindingOf hold)
    rw [(h.bound hbd).bindingOf hn] at hl
    exact (some.inj hl).symm
  have hs : old.bindingState origin = new.bindingState origin := by
    unfold PersistedRangeManifest.bindingState
    rw [hold, hn]
    simp [hpref, hetag]
  have horigs : (old.validatedOrigins.all fun entry =>
      (none : Option String) = some entry.origin ||
        ((new.bindingOf entry.origin).any fun binding =>
          binding.prefixSha256 = entry.prefixSha256 &&
            (true || binding.strongEtag = entry.strongEtag))) = true := by
    rw [List.all_eq_true]
    intro entry he
    obtain ⟨found, hf, hsame⟩ := h.sameOrigins hbd he
    simp [hf, hsame]
  have hk : (old.extents.all fun extent => new.extents.any fun other => other = extent) = true := by
    rw [List.all_eq_true]
    intro extent hm
    simpa using hexts extent hm
  unfold rangeManifestRebaseCompatibleForExtentPublication
    rangeManifestRebaseCompatibleIgnoringOrigin
  rw [h.sameLineage htot, horigs, hk, hs]
  simp

end NetPlayer.RangeCache
