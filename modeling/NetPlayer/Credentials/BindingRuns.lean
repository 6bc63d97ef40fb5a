import NetPlayer.Credentials.Bindings

/-!
# Bindings over runs

Checks, logins and manual replacements of one profile run side by side. A stored binding is always
one that the provider has confirmed for the cookie of its fingerprint; a refresh replaces a cookie
only for the same account and over the material it has read, and a binding only over the one it has
read.
-/

namespace NetPlayer.Credentials

open List Function

open Function (update)
open Transition (Run)

variable (files : CredentialFiles)

theorem replace_cases (cookie : String) (accountId : Nat) (expected : Option VerifiedWebBinding)
    (written : Bool) :
    (∃ error, files.replace cookie accountId expected written = (files, .error error)) ∨
      files.binding = expected ∧ files.replace cookie accountId expected written =
        ({ files with binding := some ⟨fingerprint cookie, accountId⟩ },
          .ok ⟨fingerprint cookie, accountId⟩) := by
  unfold CredentialFiles.replace
  split
  · split
    · exact .inl ⟨_, rfl⟩
    · rename_i hs
      exact .inr ⟨not_ne_iff.mp hs, rfl⟩
  · exact .inl ⟨_, rfl⟩

theorem storeWeb_cases (baseline : CredentialBaseline) (cookie : String)
    (refreshToken : Option String) (written : Bool) :
    (∃ error, files.storeWeb baseline cookie refreshToken written = (files, some error)) ∨
      webBaselineMatches files.material baseline = true ∧
      files.storeWeb baseline cookie refreshToken written =
        ({ files with material :=
          { files.material with cookie := some cookie, refreshToken := refreshToken } }, none) := by
  unfold CredentialFiles.storeWeb
  split
  · exact .inl ⟨_, rfl⟩
  rename_i hm
  split
  · exact .inr ⟨by simpa using hm, rfl⟩
  · exact .inl ⟨_, rfl⟩

theorem persistAccessKey_binding (baseline : CredentialBaseline)
    (expected : Option VerifiedWebBinding) (accessKey accessSecrets : String) (written : Bool) :
    (files.persistAccessKey baseline expected accessKey accessSecrets written).1.binding =
      files.binding := by
  unfold CredentialFiles.persistAccessKey
  split
  · rfl
  · split
    · rfl
    · split <;> rfl

def CheckStage.Confirmed (read : ProfileMaterial) (verified : List (String × Nat)) :
    CheckStage → Prop
  | .comparing _ accountId | .publishing _ accountId =>
    ∀ cookie, read.cookie = some cookie → (cookie, accountId) ∈ verified
  | .refreshed binding cookie _ accountId | .replacing binding cookie accountId =>
    accountId = binding.accountId ∧ (cookie, accountId) ∈ verified
  | _ => True

def WebLoginStage.Confirmed (verified : List (String × Nat)) : WebLoginStage → Prop
  | .claimed cookie _ accountId | .replacing cookie accountId => (cookie, accountId) ∈ verified
  | _ => True

def VerifiedWebBinding.Confirmed (binding : VerifiedWebBinding)
    (verified : List (String × Nat)) : Prop :=
  ∃ cookie, (cookie, binding.accountId) ∈ verified ∧
    binding.cookieFingerprint = fingerprint cookie

structure Confirmed (w : CredentialSystem) : Prop where
  binding : ∀ binding, w.files.binding = some binding → binding.Confirmed w.verified
  checks : ∀ number check, w.checks number = some check →
    check.stage.Confirmed check.read w.verified
  logins : ∀ number login, w.logins number = some login →
    login.stage.Confirmed w.verified

variable {verified more : List (String × Nat)}

theorem VerifiedWebBinding.Confirmed.mono {binding : VerifiedWebBinding}
    (confirmed : binding.Confirmed verified) (grows : ∀ entry ∈ verified, entry ∈ more) :
    binding.Confirmed more := by
  obtain ⟨cookie, hm, hfingerprint⟩ := confirmed
  exact ⟨cookie, grows _ hm, hfingerprint⟩

theorem CheckStage.Confirmed.mono {stage : CheckStage} {read : ProfileMaterial}
    (confirmed : stage.Confirmed read verified) (grows : ∀ entry ∈ verified, entry ∈ more) :
    stage.Confirmed read more := by
  cases stage with
  | comparing expected accountId => exact fun cookie hr => grows _ (confirmed cookie hr)
  | publishing expected accountId => exact fun cookie hr => grows _ (confirmed cookie hr)
  | refreshed binding cookie token accountId => exact ⟨confirmed.1, grows _ confirmed.2⟩
  | replacing binding cookie accountId => exact ⟨confirmed.1, grows _ confirmed.2⟩
  | _ => trivial

theorem WebLoginStage.Confirmed.mono {stage : WebLoginStage}
    (confirmed : stage.Confirmed verified) (grows : ∀ entry ∈ verified, entry ∈ more) :
    stage.Confirmed more := by
  cases stage with
  | claimed cookie token accountId | replacing cookie accountId => exact grows _ confirmed
  | _ => trivial

section

variable {w : CredentialSystem}

variable {number : Nat}

theorem Confirmed.setCheck {check : Check} (confirmed : Confirmed w)
    (stage : check.stage.Confirmed check.read w.verified) : Confirmed (w.setCheck number check) :=
  { confirmed with
    checks := by
      intro other found hf
      change update w.checks number (some check) other = some found at hf
      by_cases heq : other = number
      · rw [heq, update_self, Option.some.injEq] at hf
        exact hf ▸ stage
      · rw [update_of_ne heq] at hf
        exact confirmed.checks other found hf }

theorem Confirmed.setLogin {login : WebLogin} (confirmed : Confirmed w)
    (stage : login.stage.Confirmed w.verified) : Confirmed (w.setLogin number login) :=
  { confirmed with
    logins := by
      intro other found hf
      change update w.logins number (some login) other = some found at hf
      by_cases heq : other = number
      · rw [heq, update_self, Option.some.injEq] at hf
        exact hf ▸ stage
      · rw [update_of_ne heq] at hf
        exact confirmed.logins other found hf }

theorem Confirmed.setFiles {files : CredentialFiles} (confirmed : Confirmed w)
    (binding : ∀ binding, files.binding = some binding → binding.Confirmed w.verified) :
    Confirmed (w.setFiles files) :=
  { confirmed with binding := binding }

theorem Confirmed.verify (confirmed : Confirmed w) (cookie : String) (accountId : Nat) :
    Confirmed (w.verify cookie accountId) where
  binding := fun binding h =>
    (confirmed.binding binding h).mono fun _ => mem_cons_of_mem _
  checks := fun number check h =>
    (confirmed.checks number check h).mono fun _ => mem_cons_of_mem _
  logins := fun number login h =>
    (confirmed.logins number login h).mono fun _ => mem_cons_of_mem _

variable {cookie : String} {accountId : Nat}

theorem Confirmed.replace (confirmed : Confirmed w) (expected : Option VerifiedWebBinding)
    (written : Bool) (verified : (cookie, accountId) ∈ w.verified) :
    Confirmed (w.setFiles (w.files.replace cookie accountId expected written).1) := by
  refine confirmed.setFiles fun binding hbind => ?_
  rcases replace_cases w.files cookie accountId expected written with ⟨error, heq⟩ | ⟨-, heq⟩
  · rw [heq] at hbind
    exact confirmed.binding binding hbind
  · rw [heq] at hbind
    cases hbind
    exact ⟨cookie, verified, rfl⟩

theorem Confirmed.storeWeb (confirmed : Confirmed w) (baseline : CredentialBaseline)
    (cookie : String) (refreshToken : Option String) (written : Bool) :
    Confirmed (w.setFiles (w.files.storeWeb baseline cookie refreshToken written).1) := by
  refine confirmed.setFiles fun binding hbind => confirmed.binding binding ?_
  rcases storeWeb_cases w.files baseline cookie refreshToken written with ⟨error, heq⟩ | ⟨-, heq⟩ <;>
    rw [heq] at hbind <;> exact hbind

theorem confirmed_afterIdentity {check : Check}
    (stored : BindingLookup) (present : check.read.cookie = some cookie)
    (mem : (cookie, accountId) ∈ verified) :
    (afterIdentity stored accountId).Confirmed check.read verified := by
  have hr : ∀ other, check.read.cookie = some other → (other, accountId) ∈ verified := by
    intro other ho
    rw [present, Option.some.injEq] at ho
    exact ho ▸ mem
  unfold afterIdentity
  cases stored with
  | missing => exact hr
  | matching binding =>
    simp only
    split <;> trivial
  | fingerprintMismatch binding =>
    simp only
    split
    · exact hr
    · trivial

variable {after : CredentialSystem} {event : CredentialEvent}

theorem confirmed_step (confirmed : Confirmed w) (step : CredentialStep w event after) :
    Confirmed after := by
  cases step with
  | load fresh | lookup runs stage present filled | abandon runs => exact confirmed.setCheck trivial
  | identifyAccepted accountId runs stage present =>
    exact (confirmed.verify _ accountId).setCheck
      (confirmed_afterIdentity _ present mem_cons_self)
  | identifyRejected runs stage =>
    rename_i stored
    refine confirmed.setCheck ?_
    cases stored <;> trivial
  | compare runs stage =>
    rename_i number check expected accountId
    have hr := confirmed.checks number check runs
    rw [stage] at hr
    refine confirmed.setCheck ?_
    split
    · exact hr
    · trivial
  | publish written runs stage present =>
    rename_i number check expected cookie accountId
    have hr := confirmed.checks number check runs
    rw [stage] at hr
    refine (confirmed.replace expected written (hr cookie present)).setCheck ?_
    split <;> trivial
  | refresh cookie answer accountId runs stage present usable filled =>
    refine (confirmed.verify cookie accountId).setCheck ?_
    split
    · rename_i hs
      exact ⟨hs, mem_cons_self⟩
    · trivial
  | store written runs stage =>
    rename_i number check binding cookie refreshToken accountId
    have hr := confirmed.checks number check runs
    rw [stage] at hr
    refine (confirmed.storeWeb _ cookie refreshToken written).setCheck ?_
    split
    · exact hr
    · trivial
  | publishRefresh written runs stage =>
    rename_i number check binding cookie accountId
    have hr := confirmed.checks number check runs
    rw [stage] at hr
    refine (confirmed.replace (some binding) written hr.2).setCheck ?_
    split <;> trivial
  | loginStart baseline expected fresh | loginAbandon runs => exact confirmed.setLogin trivial
  | loginVerified cookie refreshToken accountId runs stage filled =>
    exact (confirmed.verify cookie accountId).setLogin mem_cons_self
  | loginStore written runs stage =>
    rename_i number login cookie refreshToken accountId
    have hclaim := confirmed.logins number login runs
    rw [stage] at hclaim
    refine (confirmed.storeWeb _ cookie refreshToken written).setLogin ?_
    split
    · exact hclaim
    · trivial
  | loginPublish written runs stage =>
    rename_i number login cookie accountId
    have hclaim := confirmed.logins number login runs
    rw [stage] at hclaim
    refine (confirmed.replace login.expected written hclaim).setLogin ?_
    split <;> trivial
  | accessKey baseline expected accessKey accessSecrets written =>
    refine confirmed.setFiles fun binding hbind => confirmed.binding binding ?_
    rwa [persistAccessKey_binding] at hbind
  | replaceMaterial material => exact confirmed.setFiles confirmed.binding

def CollisionFree (texts : List String) : Prop :=
  ∀ first ∈ texts, ∀ second ∈ texts, fingerprint first = fingerprint second → first = second

instance (texts : List String) : Decidable (CollisionFree texts) :=
  inferInstanceAs (Decidable (∀ first ∈ texts, ∀ second ∈ texts, _ → _))

def ProfileMaterial.webTexts (material : ProfileMaterial) : List String :=
  material.cookie.toList ++ material.refreshToken.toList

theorem CollisionFree.eq_of_map {texts : List String} (free : CollisionFree texts)
    {first second : Option String} (hfst : ∀ text ∈ first.toList, text ∈ texts)
    (hsnd : ∀ text ∈ second.toList, text ∈ texts)
    (same : first.map fingerprint = second.map fingerprint) : first = second := by
  cases first with
  | none => exact (Option.map_eq_none_iff.mp same.symm).symm
  | some one =>
    cases second with
    | none => cases same
    | some other =>
      rw [Option.map_some, Option.map_some, Option.some.injEq] at same
      exact congrArg some (free one (hfst one (by simp)) other (hsnd other (by simp)) same)

theorem webBaselineMatches_eq {material read : ProfileMaterial}
    (h : webBaselineMatches material (credentialBaseline read) = true)
    (free : CollisionFree (material.webTexts ++ read.webTexts)) :
    material.cookie = read.cookie ∧ material.refreshToken = read.refreshToken := by
  unfold webBaselineMatches credentialBaseline at h
  rw [Bool.and_eq_true, beq_iff_eq, beq_iff_eq] at h
  unfold ProfileMaterial.webTexts at free
  constructor
  · exact free.eq_of_map (fun text hm => by simp_all) (fun text hm => by simp_all) h.1.symm
  · exact free.eq_of_map (fun text hm => by simp_all) (fun text hm => by simp_all) h.2.symm

def CredentialEvent.check : CredentialEvent → Option Nat
  | .load number | .lookup number | .identify number | .compare number | .publish number
  | .refresh number | .store number | .publishRefresh number | .abandon number => some number
  | _ => none

theorem setCheck_self (w : CredentialSystem) (number : Nat) (check : Check) :
    (w.setCheck number check).checks number = some check :=
  update_self ..

theorem setCheck_not_changed {check found : Check}
    (hf : (w.setCheck number check).checks number = some found)
    (stage : check.stage ≠ .ended (some .changed)) : found.stage ≠ .ended (some .changed) := by
  rw [setCheck_self, Option.some.injEq] at hf
  rwa [← hf]

theorem check_step (step : CredentialStep w event after) (checks : event.check = some number) :
    (after.files.material.accessKey = w.files.material.accessKey ∧
      after.files.material.accessSecrets = w.files.material.accessSecrets) ∧
    ∀ check, after.checks number = some check → check.stage = .ended (some .changed) →
      after.files = w.files := by
  cases step with
  | publish written runs stage present =>
    rename_i owner check expected cookie accountId
    cases checks
    rcases replace_cases w.files cookie accountId expected written with
      ⟨error, heq⟩ | ⟨-, heq⟩ <;> unfold CredentialSystem.publish <;> rw [heq]
    · exact ⟨⟨rfl, rfl⟩, fun _ _ _ => rfl⟩
    · exact ⟨⟨rfl, rfl⟩, fun _ hf hstage => (setCheck_not_changed hf nofun hstage).elim⟩
  | store written runs stage =>
    rename_i owner check binding cookie refreshToken accountId
    cases checks
    rcases storeWeb_cases w.files (credentialBaseline check.read) cookie refreshToken written with
      ⟨error, heq⟩ | ⟨-, heq⟩ <;> unfold CredentialSystem.store <;> rw [heq]
    · exact ⟨⟨rfl, rfl⟩, fun _ _ _ => rfl⟩
    · exact ⟨⟨rfl, rfl⟩, fun _ hf hstage => (setCheck_not_changed hf nofun hstage).elim⟩
  | publishRefresh written runs stage =>
    rename_i owner check binding cookie accountId
    cases checks
    rcases replace_cases w.files cookie accountId (some binding) written with
      ⟨error, heq⟩ | ⟨-, heq⟩ <;> unfold CredentialSystem.publishRefresh <;> rw [heq]
    · exact ⟨⟨rfl, rfl⟩, fun _ _ _ => rfl⟩
    · exact ⟨⟨rfl, rfl⟩, fun _ hf hstage => (setCheck_not_changed hf nofun hstage).elim⟩
  | loginStart | loginVerified | loginStore | loginPublish | loginAbandon | accessKey
  | replaceMaterial => cases checks
  | _ => exact ⟨⟨rfl, rfl⟩, fun _ _ _ => rfl⟩

variable {binding : VerifiedWebBinding}

theorem store_step {check : Check} {refreshToken : Option String}
    (step : CredentialStep w (.store number) after) (runs : w.checks number = some check)
    (stage : check.stage = .refreshed binding cookie refreshToken accountId)
    (changes : after.files ≠ w.files) :
    webBaselineMatches w.files.material (credentialBaseline check.read) = true ∧
      after.files = { w.files with material :=
        { w.files.material with cookie := some cookie, refreshToken := refreshToken } } := by
  cases step with
  | store written other otherStage =>
    rw [runs, Option.some.injEq] at other
    subst other
    rw [stage, CheckStage.refreshed.injEq] at otherStage
    obtain ⟨rfl, rfl, rfl, rfl⟩ := otherStage
    rcases storeWeb_cases w.files (credentialBaseline check.read) cookie refreshToken written with
      ⟨error, heq⟩ | ⟨hm, heq⟩ <;> unfold CredentialSystem.store at changes ⊢ <;>
        rw [heq] at changes ⊢
    · exact (changes rfl).elim
    · exact ⟨hm, rfl⟩

theorem publishRefresh_step {check : Check} (step : CredentialStep w (.publishRefresh number) after)
    (runs : w.checks number = some check)
    (stage : check.stage = .replacing binding cookie accountId) (changes : after.files ≠ w.files) :
    w.files.binding = some binding ∧
      after.files = { w.files with binding := some ⟨fingerprint cookie, accountId⟩ } := by
  cases step with
  | publishRefresh written other otherStage =>
    rw [runs, Option.some.injEq] at other
    subst other
    rw [stage, CheckStage.replacing.injEq] at otherStage
    obtain ⟨rfl, rfl, rfl⟩ := otherStage
    rcases replace_cases w.files cookie accountId (some binding) written with
      ⟨error, heq⟩ | ⟨hexpd, heq⟩ <;> unfold CredentialSystem.publishRefresh at changes ⊢ <;>
        rw [heq] at changes ⊢
    · exact (changes rfl).elim
    · exact ⟨hexpd, rfl⟩

end

structure CredentialSystem.Initial (w : CredentialSystem) : Prop where
  checks : ∀ number, w.checks number = none
  logins : ∀ number, w.logins number = none
  binding : ∀ binding, w.files.binding = some binding → binding.Confirmed w.verified

theorem CredentialSystem.Initial.confirmed {w : CredentialSystem} (initial : w.Initial) :
    Confirmed w where
  binding := initial.binding
  checks := fun number check h => by
    rw [initial.checks] at h
    cases h
  logins := fun number login h => by
    rw [initial.logins] at h
    cases h

theorem confirmed_of_run {start w : CredentialSystem} {events : List CredentialEvent}
    (initial : start.Initial) (run : Run CredentialStep start events w) : Confirmed w :=
  run.invariant Confirmed (fun step confirmed => confirmed_step confirmed step) initial.confirmed

/-- In every run: a binding that matches the stored cookie carries an account verified for it; a
refresh replaces the cookie, and nothing else, only where the material is what the check has read
and the verified account is that of its binding; it replaces the binding, and nothing else, only
where the binding is the one it has read; no step of a check touches the access key, and one that
reports a change leaves both files as they are. -/
theorem credential_bindings_verified {start w : CredentialSystem} {events : List CredentialEvent}
    (initial : start.Initial) (run : Run CredentialStep start events w) :
    (∀ binding cookie, w.files.material.cookie = some cookie →
      w.files.lookup cookie = .matching binding →
      CollisionFree (cookie :: w.verified.map Prod.fst) →
        (cookie, binding.accountId) ∈ w.verified) ∧
    (∀ number after check binding cookie refreshToken accountId,
      CredentialStep w (.store number) after → w.checks number = some check →
      check.stage = .refreshed binding cookie refreshToken accountId → after.files ≠ w.files →
        accountId = binding.accountId ∧ (cookie, accountId) ∈ w.verified ∧
        after.files = { w.files with material :=
          { w.files.material with cookie := some cookie, refreshToken := refreshToken } } ∧
        (CollisionFree (w.files.material.webTexts ++ check.read.webTexts) →
          w.files.material.cookie = check.read.cookie ∧
            w.files.material.refreshToken = check.read.refreshToken)) ∧
    (∀ number after check binding cookie accountId,
      CredentialStep w (.publishRefresh number) after → w.checks number = some check →
      check.stage = .replacing binding cookie accountId → after.files ≠ w.files →
        accountId = binding.accountId ∧ w.files.binding = some binding ∧
        after.files = { w.files with binding := some ⟨fingerprint cookie, accountId⟩ }) ∧
    ∀ number event after, CredentialStep w event after → event.check = some number →
      (after.files.material.accessKey = w.files.material.accessKey ∧
        after.files.material.accessSecrets = w.files.material.accessSecrets) ∧
      ∀ check, after.checks number = some check → check.stage = .ended (some .changed) →
        after.files = w.files := by
  have confirmed := confirmed_of_run initial run
  refine ⟨?_, ?_, ?_, fun _ _ _ step checks => check_step step checks⟩
  · intro binding cookie hcookie hlookup hfree
    unfold CredentialFiles.lookup at hlookup
    split at hlookup
    · cases hlookup
    rename_i stored hstored
    split at hlookup
    · rename_i hmatches
      cases hlookup
      obtain ⟨other, hverified, hfingerprint⟩ := confirmed.binding binding hstored
      have hsame : cookie = other :=
        hfree cookie mem_cons_self other
          (mem_cons_of_mem _ (mem_map.mpr ⟨_, hverified, rfl⟩))
          (hmatches.symm.trans hfingerprint)
      rw [hsame]
      exact hverified
    · cases hlookup
  · intro number after check binding cookie refreshToken accountId step hruns hstage hchanges
    have hstored := confirmed.checks number check hruns
    rw [hstage] at hstored
    obtain ⟨hmatches, hfiles⟩ := store_step step hruns hstage hchanges
    exact ⟨hstored.1, hstored.2, hfiles, fun hfree => webBaselineMatches_eq hmatches hfree⟩
  · intro number after check binding cookie accountId step hruns hstage hchanges
    have hreplaced := confirmed.checks number check hruns
    rw [hstage] at hreplaced
    obtain ⟨hbinding, hfiles⟩ := publishRefresh_step step hruns hstage hchanges
    exact ⟨hreplaced.1, hbinding, hfiles⟩

def sharedMaterial : ProfileMaterial where
  cookie := some "cookie-a"
  refreshToken := some "token-a"
  accessKey := none
  accessSecrets := "null"

def oldBinding : VerifiedWebBinding := ⟨fingerprint "cookie-old", 7⟩

def sharedStart : CredentialSystem where
  files := ⟨sharedMaterial, some oldBinding⟩
  checks _ := none
  logins _ := none
  verified := [("cookie-old", 7)]

def acceptedCheck : Check := ⟨sharedMaterial, .comparing (some oldBinding) 7⟩

def refreshedCheck : Check := ⟨sharedMaterial, .refreshed oldBinding "cookie-b" (some "token-b") 7⟩

def lookedCheck : Check := ⟨sharedMaterial, .looked (.fingerprintMismatch oldBinding)⟩

def sharedAccepted : CredentialSystem :=
  (((sharedStart.setCheck 0 ⟨sharedMaterial, .loaded⟩).setCheck 0 lookedCheck).verify
    "cookie-a" 7).setCheck 0 acceptedCheck

def sharedRejected : CredentialSystem :=
  ((sharedAccepted.setCheck 1 ⟨sharedMaterial, .loaded⟩).setCheck 1 lookedCheck).setCheck 1
    ⟨sharedMaterial, .bound oldBinding⟩

def sharedRefreshed : CredentialSystem :=
  (sharedRejected.verify "cookie-b" 7).setCheck 1 refreshedCheck

def sharedPublished : CredentialSystem :=
  (sharedRefreshed.compare 0 acceptedCheck (some oldBinding) 7).publish 0
    ⟨sharedMaterial, .publishing (some oldBinding) 7⟩ (some oldBinding) "cookie-a" 7 true

def sharedStored : CredentialSystem :=
  sharedPublished.store 1 refreshedCheck oldBinding "cookie-b" (some "token-b") 7 true

def sharedEnded : CredentialSystem :=
  sharedStored.publishRefresh 1 ⟨sharedMaterial, .replacing oldBinding "cookie-b" 7⟩ oldBinding
    "cookie-b" 7 true

theorem sharedStart_initial : sharedStart.Initial where
  checks := fun _ => rfl
  logins := fun _ => rfl
  binding := by
    intro binding h
    cases h
    exact ⟨"cookie-old", mem_cons_self, rfl⟩

theorem shared_lookup : sharedStart.files.lookup "cookie-a" = .fingerprintMismatch oldBinding := by
  decide +kernel

theorem shared_lookup_step {w : CredentialSystem} {number : Nat}
    (runs : w.checks number = some ⟨sharedMaterial, .loaded⟩) (files : w.files = sharedStart.files) :
    CredentialStep w (.lookup number) (w.setCheck number lookedCheck) := by
  have hcookie : (Check.mk sharedMaterial .loaded).read.cookie = some "cookie-a" := rfl
  have hst := CredentialStep.lookup runs rfl hcookie (by decide)
  rw [files, shared_lookup] at hst
  exact hst

theorem sharedAccepted_run :
    Run CredentialStep sharedStart [.load 0, .lookup 0, .identify 0] sharedAccepted := by
  have hlooked := shared_lookup_step
    (w := sharedStart.setCheck 0 ⟨sharedMaterial, .loaded⟩) (update_self ..) rfl
  have hruns : ((sharedStart.setCheck 0 ⟨sharedMaterial, .loaded⟩).setCheck 0 lookedCheck).checks 0 =
      some lookedCheck := rfl
  have hcookie : lookedCheck.read.cookie = some "cookie-a" := rfl
  exact Run.snoc (Run.snoc (Run.single (CredentialStep.load rfl)) hlooked)
    (CredentialStep.identifyAccepted 7 hruns rfl hcookie)

theorem sharedRejected_run :
    Run CredentialStep sharedAccepted [.load 1, .lookup 1, .identify 1] sharedRejected := by
  have hlooked := shared_lookup_step
    (w := sharedAccepted.setCheck 1 ⟨sharedMaterial, .loaded⟩) (update_self ..) rfl
  have hruns : ((sharedAccepted.setCheck 1 ⟨sharedMaterial, .loaded⟩).setCheck 1
      lookedCheck).checks 1 = some lookedCheck := rfl
  exact Run.snoc (Run.snoc (Run.single (CredentialStep.load rfl)) hlooked)
    (CredentialStep.identifyRejected hruns rfl)

theorem sharedPublished_run :
    Run CredentialStep sharedRejected [.refresh 1, .compare 0, .publish 0] sharedPublished := by
  have hbd : sharedRejected.checks 1 = some ⟨sharedMaterial, .bound oldBinding⟩ := rfl
  have ht : sharedMaterial.refreshToken = some "token-a" := rfl
  have hrefd : CredentialStep sharedRejected (.refresh 1) sharedRefreshed :=
    CredentialStep.refresh "cookie-b" "token-b" 7 hbd rfl ht (by decide) (by decide)
  have hacc : sharedRefreshed.checks 0 = some acceptedCheck := rfl
  have hcompared : CredentialStep sharedRefreshed (.compare 0)
      (sharedRefreshed.compare 0 acceptedCheck (some oldBinding) 7) :=
    CredentialStep.compare hacc rfl
  have hpublishing : (sharedRefreshed.compare 0 acceptedCheck (some oldBinding) 7).checks 0 =
      some ⟨sharedMaterial, .publishing (some oldBinding) 7⟩ := by
    decide +kernel
  exact Run.snoc (Run.snoc (Run.single hrefd) hcompared)
    (CredentialStep.publish true hpublishing rfl rfl)

theorem shared_run :
    Run CredentialStep sharedStart
      [.load 0, .lookup 0, .identify 0, .load 1, .lookup 1, .identify 1, .refresh 1, .compare 0,
        .publish 0] sharedPublished :=
  (sharedAccepted_run.append sharedRejected_run).append sharedPublished_run

/-- The binding that the first check has published carries the account verified for the cookie. -/
theorem credential_bindings_verified_shared : ("cookie-a", 7) ∈ sharedPublished.verified :=
  (credential_bindings_verified sharedStart_initial shared_run).1
    ⟨fingerprint "cookie-a", 7⟩ "cookie-a" (by decide +kernel) (by decide +kernel)
      (by decide +kernel)

/-- The refresh of the second check reports a change, and has replaced the cookie. -/
theorem refresh_reports_change_after_replacing :
    Run CredentialStep sharedStart
        [.load 0, .lookup 0, .identify 0, .load 1, .lookup 1, .identify 1, .refresh 1,
          .compare 0, .publish 0] sharedPublished ∧
      CredentialStep sharedPublished (.store 1) sharedStored ∧
      CredentialStep sharedStored (.publishRefresh 1) sharedEnded ∧
      (sharedEnded.checks 1).map Check.stage = some (.ended (some .changed)) ∧
      sharedPublished.files.material.cookie = some "cookie-a" ∧
      sharedEnded.files.material.cookie = some "cookie-b" := by
  have hstored : CredentialStep sharedPublished (.store 1) sharedStored :=
    CredentialStep.store true (by decide +kernel) rfl
  have hended : CredentialStep sharedStored (.publishRefresh 1) sharedEnded :=
    CredentialStep.publishRefresh true (by decide +kernel) rfl
  exact ⟨shared_run, hstored, hended, by decide +kernel, by decide +kernel, by decide +kernel⟩

end NetPlayer.Credentials
