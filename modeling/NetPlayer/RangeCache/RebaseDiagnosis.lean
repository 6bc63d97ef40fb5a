import NetPlayer.RangeCache.Manifest

/-!
# The diagnosis of a refused rebase

The test that decides whether an extent may be published on a newer checkpoint,
and the function that names its first failed signal, decide the same thing.
-/

namespace NetPlayer.RangeCache

open List

variable {expected current : PersistedRangeManifest} {targetOrigin : String}

theorem originRebaseFailure_eq_none {origins : List PersistedRangeOrigin} :
    originRebaseFailure current targetOrigin origins = none ↔
      ∀ old ∈ origins, ∃ new, current.bindingOf old.origin = some new ∧
        new.prefixSha256 = old.prefixSha256 := by
  induction origins with
  | nil => simp [originRebaseFailure]
  | cons old rest ih =>
    rw [forall_mem_cons, ← ih, originRebaseFailure]
    cases current.bindingOf old.origin with
    | none => simp
    | some new =>
      by_cases hdigest : new.prefixSha256 = old.prefixSha256
      · simp [hdigest]
      · simp [hdigest]

theorem rebaseCompatible_iff {ignored : Option String} {allowUpdate : Bool} :
    rangeManifestRebaseCompatibleIgnoringOrigin expected current ignored allowUpdate = true ↔
      sameLineage expected current = true ∧
        (∀ old ∈ expected.validatedOrigins, ignored = some old.origin ∨
          ∃ new, current.bindingOf old.origin = some new ∧ new.prefixSha256 = old.prefixSha256 ∧
            (allowUpdate = true ∨ new.strongEtag = old.strongEtag)) ∧
        ∀ old ∈ expected.extents, old ∈ current.extents := by
  simp [rangeManifestRebaseCompatibleIgnoringOrigin, and_assoc, Option.any_eq_true]

/-- The six comparisons the diagnosis makes before it looks at origins are the test's own. -/
theorem rebaseFailureStage_of_lineage :
    rangeManifestExtentRebaseFailureStage expected current targetOrigin = none ↔
      sameLineage expected current = true ∧
        originRebaseFailure current targetOrigin expected.validatedOrigins = none ∧
        (∀ old ∈ expected.extents, old ∈ current.extents) ∧
        expected.bindingState targetOrigin = current.bindingState targetOrigin := by
  have htot : (expected.totalLength.any fun total => current.totalLength ≠ some total) =
      !(expected.totalLength.all fun total => current.totalLength = some total) := by
    cases expected.totalLength <;> simp
  have hdig : (expected.prefixSha256.any fun digest => current.prefixSha256 ≠ some digest) =
      !(expected.prefixSha256.all fun digest => current.prefixSha256 = some digest) := by
    cases expected.prefixSha256 <;> simp
  have hexts : (expected.extents.any fun old => !(current.extents.any fun new => new = old)) =
      true ↔ ¬∀ old ∈ expected.extents, old ∈ current.extents := by
    grind
  have hbind : expected.bindingState targetOrigin = current.bindingState targetOrigin ↔
      (expected.bindingOf targetOrigin).map (fun b => (b.prefixSha256, b.strongEtag)) =
        (current.bindingOf targetOrigin).map fun b => (b.prefixSha256, b.strongEtag) := Iff.rfl
  rw [rangeManifestExtentRebaseFailureStage, htot, hdig, hbind, sameLineage]
  split
  · simp [*]
  split
  · simp [*]
  split
  · simp [*]
  split
  · simp [*]
  split
  · simp_all
  split
  · simp_all
  split
  · simp [*]
  split
  · simp_all
  · rename_i horigs hexts
    simp only [horigs, true_and]
    cases expected.bindingOf targetOrigin <;> cases current.bindingOf targetOrigin <;> grind

/-- The diagnosis names no signal exactly when the extent may be published, and the predicate for a
stale target only holds of pairs that are refused. -/
theorem diagnosis_agrees_with_decision (expected current : PersistedRangeManifest)
    (targetOrigin : String) :
    (rangeManifestExtentRebaseFailureStage expected current targetOrigin = none ↔
      rangeManifestRebaseCompatibleForExtentPublication expected current targetOrigin = true) ∧
    ¬(rangeManifestTargetValidatorSnapshotIsStale expected current targetOrigin = true ∧
      rangeManifestRebaseCompatibleForExtentPublication expected current targetOrigin = true) := by
  constructor
  · rw [rebaseFailureStage_of_lineage, originRebaseFailure_eq_none,
      rangeManifestRebaseCompatibleForExtentPublication, Bool.and_eq_true, rebaseCompatible_iff,
      decide_eq_true_eq]
    simp [and_assoc]
  · rintro ⟨hstale, hcompat⟩
    have hbind : expected.bindingState targetOrigin = current.bindingState targetOrigin :=
      of_decide_eq_true (Bool.and_eq_true_iff.mp hcompat).2
    have hdiffer := (Bool.and_eq_true_iff.mp hstale).2
    unfold PersistedRangeManifest.bindingState at hbind
    cases hold : expected.bindingOf targetOrigin with
    | none => simp [hold] at hdiffer
    | some old =>
      cases hnew : current.bindingOf targetOrigin with
      | none => simp [hold, hnew] at hdiffer
      | some new =>
        simp only [hold, hnew, Option.map_some, Option.some.injEq, Prod.mk.injEq] at hbind
        simp [hold, hnew, hbind] at hdiffer

end NetPlayer.RangeCache
