import Mathlib.Logic.Function.Basic
import NetPlayer.Hls.Adapter
import NetPlayer.Library.Sha256
import NetPlayer.Library.Transition

/-!
# Credentials and their bindings

The credential store and the file of verified bindings, for one profile. The store compares and
replaces a profile atomically, and so does `replace` with a binding; between the two files, and
between an answer of the provider and a file, others may write. The access-key provider's secrets
are taken as their serialized text.
-/

namespace NetPlayer.Credentials

open Function (update)
open Hls (trim)

structure ProfileMaterial where
  cookie : Option String
  refreshToken : Option String
  accessKey : Option String
  accessSecrets : String
  deriving DecidableEq

/-- `bytes_fingerprint` of a text. -/
def fingerprint (value : String) : String := Sha256.hexDigest value.toUTF8.data.toList

structure CredentialBaseline where
  webCookie : Option String
  webRefresh : Option String
  accessKey : Option String
  accessSecrets : Option String
  deriving DecidableEq

variable (material : ProfileMaterial)

def credentialBaseline : CredentialBaseline where
  webCookie := material.cookie.map fingerprint
  webRefresh := material.refreshToken.map fingerprint
  accessKey := material.accessKey.map fingerprint
  accessSecrets := some (fingerprint material.accessSecrets)

def webBaselineMatches (baseline : CredentialBaseline) : Bool :=
  baseline.webCookie == material.cookie.map fingerprint &&
    baseline.webRefresh == material.refreshToken.map fingerprint

def credentialBaselineMatches (baseline : CredentialBaseline) : Bool :=
  webBaselineMatches material baseline && baseline.accessKey == material.accessKey.map fingerprint &&
    baseline.accessSecrets == some (fingerprint material.accessSecrets)

structure VerifiedWebBinding where
  cookieFingerprint : String
  accountId : Nat
  deriving DecidableEq

inductive BindingLookup where
  | missing
  | matching (binding : VerifiedWebBinding)
  | fingerprintMismatch (binding : VerifiedWebBinding)
  deriving DecidableEq

inductive BindingError where
  | unavailable
  | changed
  deriving DecidableEq

structure CredentialFiles where
  material : ProfileMaterial
  binding : Option VerifiedWebBinding
  deriving DecidableEq

namespace CredentialFiles

variable (files : CredentialFiles)

def lookup (cookie : String) : BindingLookup :=
  match files.binding with
  | none => .missing
  | some binding =>
    if binding.cookieFingerprint = fingerprint cookie then .matching binding
    else .fingerprintMismatch binding

/-- `written`: the file could be locked, read and written. -/
def replace (cookie : String) (accountId : Nat) (expected : Option VerifiedWebBinding)
    (written : Bool) : CredentialFiles × Except BindingError VerifiedWebBinding :=
  if written then
    if files.binding ≠ expected then (files, .error .changed)
    else
      let binding := ⟨fingerprint cookie, accountId⟩
      ({ files with binding := some binding }, .ok binding)
  else (files, .error .unavailable)

/-- The update of the store in `persist_refreshed_web` and in `persist_web_login`. -/
def storeWeb (baseline : CredentialBaseline) (cookie : String) (refreshToken : Option String)
    (written : Bool) : CredentialFiles × Option BindingError :=
  if !webBaselineMatches files.material baseline then (files, some .changed)
  else if written then
    ({ files with material :=
        { files.material with cookie := some cookie, refreshToken := refreshToken } }, none)
  else (files, some .unavailable)

/-- `persist_access_key`, of which the binding is compared while the store is locked. -/
def persistAccessKey (baseline : CredentialBaseline) (expected : Option VerifiedWebBinding)
    (accessKey accessSecrets : String) (written : Bool) : CredentialFiles × Option BindingError :=
  if !credentialBaselineMatches files.material baseline then (files, some .changed)
  else if files.binding ≠ expected then (files, some .changed)
  else if written then
    ({ files with material :=
        { files.material with accessKey := some accessKey, accessSecrets := accessSecrets } }, none)
  else (files, some .unavailable)

end CredentialFiles

/-- Where `maintain_web` is; `refresh_rejected_web` goes on from `bound`. -/
inductive CheckStage where
  | loaded
  | looked (stored : BindingLookup)
  | comparing (expected : Option VerifiedWebBinding) (accountId : Nat)
  | publishing (expected : Option VerifiedWebBinding) (accountId : Nat)
  | bound (binding : VerifiedWebBinding)
  | refreshed (binding : VerifiedWebBinding) (cookie : String) (refreshToken : Option String)
      (accountId : Nat)
  | replacing (binding : VerifiedWebBinding) (cookie : String) (accountId : Nat)
  | ended (error : Option BindingError)
  deriving DecidableEq

structure Check where
  read : ProfileMaterial
  stage : CheckStage
  deriving DecidableEq

inductive WebLoginStage where
  | pending
  | claimed (cookie : String) (refreshToken : Option String) (accountId : Nat)
  | replacing (cookie : String) (accountId : Nat)
  | ended (error : Option BindingError)
  deriving DecidableEq

structure WebLogin where
  baseline : CredentialBaseline
  expected : Option VerifiedWebBinding
  stage : WebLoginStage
  deriving DecidableEq

structure CredentialSystem where
  files : CredentialFiles
  checks : Nat → Option Check
  logins : Nat → Option WebLogin
  /-- The cookies that the provider has verified, with their accounts. No operation reads it. -/
  verified : List (String × Nat)

/-- The material of a cookie whose identity the provider has accepted. -/
def afterIdentity (stored : BindingLookup) (accountId : Nat) : CheckStage :=
  match stored with
  | .matching binding => if binding.accountId = accountId then .bound binding else .ended none
  | .fingerprintMismatch binding =>
    if binding.accountId = accountId then .comparing (some binding) accountId else .ended none
  | .missing => .comparing none accountId

def afterRejection (stored : BindingLookup) : CheckStage :=
  match stored with
  | .matching binding | .fingerprintMismatch binding => .bound binding
  | .missing => .ended none

def nextRefreshToken (token answer : String) : String :=
  if trim answer = "" then token else answer

namespace CredentialSystem

variable (w : CredentialSystem) (number : Nat)

def setCheck (check : Check) : CredentialSystem :=
  { w with checks := update w.checks number (some check) }

def setLogin (login : WebLogin) : CredentialSystem :=
  { w with logins := update w.logins number (some login) }

def setFiles (files : CredentialFiles) : CredentialSystem :=
  { w with files := files }

def verify (cookie : String) (accountId : Nat) : CredentialSystem :=
  { w with verified := (cookie, accountId) :: w.verified }

/-- The first part of `publish_verified_binding`. -/
def compare (check : Check) (expected : Option VerifiedWebBinding) (accountId : Nat) :
    CredentialSystem :=
  let unchanged := webBaselineMatches w.files.material (credentialBaseline check.read)
  let stage := if unchanged then .publishing expected accountId else .ended (some .changed)
  w.setCheck number { check with stage := stage }

def publish (check : Check) (expected : Option VerifiedWebBinding) (cookie : String)
    (accountId : Nat) (written : Bool) : CredentialSystem :=
  let (files, published) := w.files.replace cookie accountId expected written
  let stage := match published with
    | .ok binding => .bound binding
    | .error error => .ended (some error)
  (w.setFiles files).setCheck number { check with stage := stage }

def refresh (check : Check) (binding : VerifiedWebBinding) (cookie token : String)
    (accountId : Nat) : CredentialSystem :=
  let stage := if accountId = binding.accountId then
      .refreshed binding cookie (some token) accountId
    else .ended none
  (w.verify cookie accountId).setCheck number { check with stage := stage }

/-- The first part of `persist_refreshed_web`. -/
def store (check : Check) (binding : VerifiedWebBinding) (cookie : String)
    (refreshToken : Option String) (accountId : Nat) (written : Bool) : CredentialSystem :=
  let (files, failed) := w.files.storeWeb (credentialBaseline check.read) cookie refreshToken written
  let stage := match failed with
    | none => .replacing binding cookie accountId
    | some error => .ended (some error)
  (w.setFiles files).setCheck number { check with stage := stage }

/-- The second part of `persist_refreshed_web`. -/
def publishRefresh (check : Check) (binding : VerifiedWebBinding) (cookie : String)
    (accountId : Nat) (written : Bool) : CredentialSystem :=
  let (files, published) := w.files.replace cookie accountId (some binding) written
  let stage := match published with
    | .ok _ => .ended none
    | .error error => .ended (some error)
  (w.setFiles files).setCheck number { check with stage := stage }

/-- The first part of `persist_web_login`. -/
def loginStore (login : WebLogin) (cookie : String) (refreshToken : Option String)
    (accountId : Nat) (written : Bool) : CredentialSystem :=
  let (files, failed) := w.files.storeWeb login.baseline cookie refreshToken written
  let stage := match failed with
    | none => .replacing cookie accountId
    | some error => .ended (some error)
  (w.setFiles files).setLogin number { login with stage := stage }

def loginPublish (login : WebLogin) (cookie : String) (accountId : Nat) (written : Bool) :
    CredentialSystem :=
  let (files, published) := w.files.replace cookie accountId login.expected written
  let stage := match published with
    | .ok _ => .ended none
    | .error error => .ended (some error)
  (w.setFiles files).setLogin number { login with stage := stage }

end CredentialSystem

inductive CredentialEvent where
  | load (number : Nat)
  | lookup (number : Nat)
  | identify (number : Nat)
  | compare (number : Nat)
  | publish (number : Nat)
  | refresh (number : Nat)
  | store (number : Nat)
  | publishRefresh (number : Nat)
  | abandon (number : Nat)
  | loginStart (number : Nat)
  | loginVerified (number : Nat)
  | loginStore (number : Nat)
  | loginPublish (number : Nat)
  | loginAbandon (number : Nat)
  | accessKey
  | replaceMaterial
  deriving DecidableEq

inductive CredentialStep : CredentialSystem → CredentialEvent → CredentialSystem → Prop
  | load {w : CredentialSystem} {number : Nat} (fresh : w.checks number = none) :
      CredentialStep w (.load number) (w.setCheck number ⟨w.files.material, .loaded⟩)
  | lookup {w : CredentialSystem} {number : Nat} {check : Check} {cookie : String}
      (runs : w.checks number = some check) (stage : check.stage = .loaded)
      (present : check.read.cookie = some cookie) (filled : trim cookie ≠ "") :
      CredentialStep w (.lookup number)
        (w.setCheck number { check with stage := .looked (w.files.lookup cookie) })
  | identifyAccepted {w : CredentialSystem} {number : Nat} {check : Check} {cookie : String}
      {stored : BindingLookup} (accountId : Nat) (runs : w.checks number = some check)
      (stage : check.stage = .looked stored) (present : check.read.cookie = some cookie) :
      CredentialStep w (.identify number) ((w.verify cookie accountId).setCheck number
        { check with stage := afterIdentity stored accountId })
  | identifyRejected {w : CredentialSystem} {number : Nat} {check : Check}
      {stored : BindingLookup} (runs : w.checks number = some check)
      (stage : check.stage = .looked stored) :
      CredentialStep w (.identify number)
        (w.setCheck number { check with stage := afterRejection stored })
  | compare {w : CredentialSystem} {number : Nat} {check : Check}
      {expected : Option VerifiedWebBinding} {accountId : Nat}
      (runs : w.checks number = some check) (stage : check.stage = .comparing expected accountId) :
      CredentialStep w (.compare number) (w.compare number check expected accountId)
  | publish {w : CredentialSystem} {number : Nat} {check : Check}
      {expected : Option VerifiedWebBinding} {cookie : String} {accountId : Nat} (written : Bool)
      (runs : w.checks number = some check)
      (stage : check.stage = .publishing expected accountId)
      (present : check.read.cookie = some cookie) :
      CredentialStep w (.publish number) (w.publish number check expected cookie accountId written)
  | refresh {w : CredentialSystem} {number : Nat} {check : Check} {binding : VerifiedWebBinding}
      {token : String} (cookie answer : String) (accountId : Nat)
      (runs : w.checks number = some check) (stage : check.stage = .bound binding)
      (present : check.read.refreshToken = some token) (usable : trim token ≠ "")
      (filled : trim cookie ≠ "") :
      CredentialStep w (.refresh number)
        (w.refresh number check binding cookie (nextRefreshToken token answer) accountId)
  | store {w : CredentialSystem} {number : Nat} {check : Check} {binding : VerifiedWebBinding}
      {cookie : String} {refreshToken : Option String} {accountId : Nat} (written : Bool)
      (runs : w.checks number = some check)
      (stage : check.stage = .refreshed binding cookie refreshToken accountId) :
      CredentialStep w (.store number)
        (w.store number check binding cookie refreshToken accountId written)
  | publishRefresh {w : CredentialSystem} {number : Nat} {check : Check}
      {binding : VerifiedWebBinding} {cookie : String} {accountId : Nat} (written : Bool)
      (runs : w.checks number = some check)
      (stage : check.stage = .replacing binding cookie accountId) :
      CredentialStep w (.publishRefresh number)
        (w.publishRefresh number check binding cookie accountId written)
  | abandon {w : CredentialSystem} {number : Nat} {check : Check}
      (runs : w.checks number = some check) :
      CredentialStep w (.abandon number) (w.setCheck number { check with stage := .ended none })
  | loginStart {w : CredentialSystem} {number : Nat} (baseline : CredentialBaseline)
      (expected : Option VerifiedWebBinding) (fresh : w.logins number = none) :
      CredentialStep w (.loginStart number) (w.setLogin number ⟨baseline, expected, .pending⟩)
  | loginVerified {w : CredentialSystem} {number : Nat} {login : WebLogin} (cookie : String)
      (refreshToken : Option String) (accountId : Nat) (runs : w.logins number = some login)
      (stage : login.stage = .pending) (filled : trim cookie ≠ "") :
      CredentialStep w (.loginVerified number) ((w.verify cookie accountId).setLogin number
        { login with stage := .claimed cookie refreshToken accountId })
  | loginStore {w : CredentialSystem} {number : Nat} {login : WebLogin} {cookie : String}
      {refreshToken : Option String} {accountId : Nat} (written : Bool)
      (runs : w.logins number = some login)
      (stage : login.stage = .claimed cookie refreshToken accountId) :
      CredentialStep w (.loginStore number)
        (w.loginStore number login cookie refreshToken accountId written)
  | loginPublish {w : CredentialSystem} {number : Nat} {login : WebLogin} {cookie : String}
      {accountId : Nat} (written : Bool) (runs : w.logins number = some login)
      (stage : login.stage = .replacing cookie accountId) :
      CredentialStep w (.loginPublish number)
        (w.loginPublish number login cookie accountId written)
  | loginAbandon {w : CredentialSystem} {number : Nat} {login : WebLogin}
      (runs : w.logins number = some login) :
      CredentialStep w (.loginAbandon number)
        (w.setLogin number { login with stage := .ended none })
  | accessKey {w : CredentialSystem} (baseline : CredentialBaseline)
      (expected : Option VerifiedWebBinding) (accessKey accessSecrets : String) (written : Bool) :
      CredentialStep w .accessKey
        (w.setFiles (w.files.persistAccessKey baseline expected accessKey accessSecrets written).1)
  | replaceMaterial {w : CredentialSystem} (material : ProfileMaterial) :
      CredentialStep w .replaceMaterial (w.setFiles { w.files with material := material })

end NetPlayer.Credentials
