import NetPlayer.Outputs.Messages

/-!
# Validation of a task's output

The checks that the results and the resources of a task pass before they become its output,
and the binding of the artifacts to the registered resources. Byte counts are natural
numbers: the saturating sums of the source stay exact below its limits.
-/

namespace NetPlayer.Outputs

open ProtoLength
open Hls (trim)

def maxResourceIdBytes : Nat := 200
def maxTaskResults : Nat := 10000
def maxTaskResources : Nat := 50000
def maxTaskArtifacts : Nat := 50000
def maxTaskResultEncodedBytes : Nat := 1024 * 1024
def maxTaskResourceBaseUriBytes : Nat := 2 * 1024
def maxTaskResourceUriProjectionOverheadBytes : Nat := 16
def maxTaskClientRedactionMessageBytes : Nat := 256
def maxTaskClientRedactionOverheadBytes : Nat := 16
def maxTaskResourceEncodedBytes : Nat := 64 * 1024
def maxTaskOutputStringBytes : Nat := 8 * 1024 * 1024
def maxTaskOutputEncodedBytes : Nat := 32 * 1024 * 1024
def maxTaskResultProviderVariants : Nat := 10000

structure TaskResourceBodyIdentity where
  deviceId : UInt64
  inode : UInt64
  sizeBytes : UInt64
  mode : UInt32
  deriving DecidableEq

structure TaskResourceRecord where
  resource : CacheResourceRef
  bodyIdentity : Option TaskResourceBodyIdentity
  bodyIdentityMigrationPending : Bool
  deriving DecidableEq

def reject (bad : Bool) (error : String) : Except String Unit :=
  if bad then .error error else .ok ()

@[simp]
theorem reject_eq_ok {bad : Bool} {error : String} {u : Unit} :
    reject bad error = .ok u ↔ bad = false := by
  cases bad <;> simp [reject]

def rejectFirst {Item : Type} (items : List Item) (bad : Item → Bool) (error : Item → String) :
    Except String Unit :=
  match items.find? bad with
  | some item => .error (error item)
  | none => .ok ()

@[simp]
theorem rejectFirst_eq_ok {Item : Type} {items : List Item} {bad : Item → Bool}
    {error : Item → String} {u : Unit} :
    rejectFirst items bad error = .ok u ↔ ∀ item ∈ items, bad item = false := by
  unfold rejectFirst
  cases hfind : items.find? bad with
  | some item =>
    have hm := List.mem_of_find?_eq_some hfind
    have hbad := List.find?_some hfind
    simp only [reduceCtorEq, false_iff, not_forall]
    exact ⟨item, hm, by simp [hbad]⟩
  | none => simpa using hfind

@[simp]
theorem bind_eq_ok {Value Next : Type} {first : Except String Value}
    {next : Value → Except String Next} {result : Next} :
    (first >>= next) = .ok result ↔ ∃ value, first = .ok value ∧ next value = .ok result := by
  cases first with
  | error error | ok value => simp [bind, Except.bind]

theorem bind_check_eq_ok {Next : Type} {first : Except String Unit}
    {next : Unit → Except String Next} {result : Next} :
    (first >>= next) = .ok result ↔ first = .ok () ∧ next () = .ok result := by
  cases first with
  | error error | ok value => simp [bind, Except.bind]

def projectedRedactionMessageGrowth (message : String) : Nat :=
  maxTaskClientRedactionMessageBytes - message.utf8ByteSize + maxTaskClientRedactionOverheadBytes

def problemGrowth (problem : Option TaskProblem) : Nat :=
  problem.elim 0 fun problem => projectedRedactionMessageGrowth problem.message

variable (result : TaskResult)

def projectedTaskResultRedactionBytes : Nat :=
  problemGrowth result.problem +
    result.progress.elim 0 (fun progress => projectedRedactionMessageGrowth progress.message) +
    (result.artifacts.map fun artifact => problemGrowth artifact.problem).sum

def projectedTaskResultEncodedBytes : Nat :=
  result.encodedLen +
    (result.artifacts.filter fun artifact => artifact.resource.isSome).length *
      (maxTaskResourceBaseUriBytes + maxTaskResourceUriProjectionOverheadBytes) +
    projectedTaskResultRedactionBytes result

variable (resources : List TaskResourceRecord)

def resourcesEncodedBytes : Nat :=
  (resources.map fun record => record.resource.encodedLen).sum

def resourcesStringBytes : Nat :=
  (resources.map fun record => resourceStringBytes record.resource).sum

variable (results : List TaskResult)

def taskOutputProjectedEncodedBytes (resources : List TaskResourceRecord) : Nat :=
  (results.map projectedTaskResultEncodedBytes).sum + resourcesEncodedBytes resources

def taskOutputEncodedBytes (resources : List TaskResourceRecord) : Nat :=
  (results.map TaskResult.encodedLen).sum + resourcesEncodedBytes resources

def taskOutputStringBytes (resources : List TaskResourceRecord) : Nat :=
  (results.map taskResultStringBytes).sum + resourcesStringBytes resources

def artifactCount : Nat :=
  (results.map fun result => result.artifacts.length).sum

def validateCollectionSizes (resources : List TaskResourceRecord) :
    Except String Unit := do
  reject (results.length > maxTaskResults) "task output cannot exceed 10000 results"
  reject (resources.length > maxTaskResources) "task output cannot exceed 50000 resources"
  reject (artifactCount results > maxTaskArtifacts) "task output cannot exceed 50000 artifacts"
  rejectFirst results (fun result => result.encodedLen > maxTaskResultEncodedBytes)
    fun result => "task result cannot exceed 1048576 encoded bytes: " ++ result.id
  rejectFirst results
    (fun result => projectedTaskResultEncodedBytes result > maxTaskResultEncodedBytes)
    fun result =>
      "task result cannot exceed 1048576 encoded bytes after client projection: " ++ result.id
  rejectFirst resources
    (fun record => record.resource.encodedLen > maxTaskResourceEncodedBytes)
    fun record => "task resource cannot exceed 65536 encoded bytes: " ++ record.resource.id
  reject (taskOutputStringBytes results resources > maxTaskOutputStringBytes)
    "task output cannot exceed 8388608 string bytes"
  reject (taskOutputEncodedBytes results resources > maxTaskOutputEncodedBytes)
    "task output cannot exceed 33554432 encoded bytes"
  reject (taskOutputProjectedEncodedBytes results resources > maxTaskOutputEncodedBytes)
    "task output cannot exceed 33554432 encoded bytes after client projection"

def validateProblem (problem : Option TaskProblem) (ownerId : String) : Except String Unit :=
  reject (problem.any fun problem => TaskProblemCategory.of problem.category = .unspecified)
    ("task problem has an unspecified or unknown category: " ++ ownerId)

def blankOrPadded (value : String) : Bool :=
  trim value = "" || value != trim value

def validateBilibiliResultIdentity (identity : BilibiliContentIdentity) (subjectId : String)
    (resultId : String) : Except String Unit :=
  let aidOrBvid := identity.aid > 0 || identity.bvid != ""
  let complete := identity.bvid == trim identity.bvid &&
    match BilibiliContentKind.of identity.kind with
    | .videoPage | .collectionItem => identity.cid > 0 && aidOrBvid && identity.epid == 0
    | .seasonEpisode => decide (identity.epid > 0)
    | .unspecified => false
  let matchesSubject :=
    match BilibiliContentKind.of identity.kind with
    | .videoPage => subjectId == toString identity.cid.toNat
    | .seasonEpisode => subjectId == toString identity.epid.toNat
    | .collectionItem => (identity.bvid != "" && subjectId == identity.bvid) ||
        (identity.aid > 0 && subjectId == "av" ++ toString identity.aid.toNat)
    | .unspecified => false
  reject (!complete || !matchesSubject)
    ("Bilibili task result has an invalid identity: " ++ resultId)

def validateResultSubjectAndProviderDetails : Except String Unit := do
  reject (result.subject.any fun subject => blankOrPadded subject.provider ||
      blankOrPadded subject.kind || blankOrPadded subject.id)
    ("task result has an invalid subject: " ++ result.id)
  match result.providerDetails with
  | none => .ok ()
  | some providerDetails =>
    match providerDetails.bilibili with
    | none => .error ("task result has empty provider details: " ++ result.id)
    | some details =>
      match result.subject with
      | none => .error ("task result provider details require a subject: " ++ result.id)
      | some subject => do
          reject (subject.provider != "bilibili")
            ("Bilibili task result details require a Bilibili subject: " ++ result.id)
          reject (details.identity.isNone && details.playbackSession.isNone &&
              details.hlsCacheFillStatus.isNone)
            ("Bilibili task result details must not be empty: " ++ result.id)
          match details.identity with
          | none => .ok ()
          | some identity =>
            validateBilibiliResultIdentity identity subject.id result.id
          reject (details.playbackSession.any fun session =>
              session.variants.length > maxTaskResultProviderVariants)
            ("Bilibili task result playback session cannot exceed 10000 variants: " ++
              result.id)

def invalidProgress (progress : TaskResultProgress) : Bool :=
  (progress.fraction.elim true fun fraction => fraction < 0 || fraction > 1) ||
    progress.completedBytes < 0 || progress.totalBytes < 0

def validateResultIdsFrom (seen : List String) : List TaskResult → Except String Unit
  | [] => .ok ()
  | result :: rest => do
      reject (trim result.id = "") "task result id must not be empty"
      reject (seen.contains result.id) ("duplicate task result id: " ++ result.id)
      reject (taskStateOf result.state = .unspecified)
        ("task result has an unspecified or unknown state: " ++ result.id)
      reject (result.progress.any invalidProgress)
        ("task result has invalid progress: " ++ result.id)
      validateProblem result.problem result.id
      validateResultSubjectAndProviderDetails result
      validateResultIdsFrom (result.id :: seen) rest

def validateResultIds : Except String Unit :=
  validateResultIdsFrom [] results

def isIdChar (c : Char) : Bool :=
  c.isAlphanum || c == '-' || c == '_'

variable (id : String)

def resourceIdIsValid : Bool :=
  id != "" && id.utf8ByteSize ≤ maxResourceIdBytes && id.toList.all isIdChar

def validateResourceId : Except String Unit :=
  reject (!resourceIdIsValid id)
    "task resource id must use 1-200 ASCII letters, digits, '-' or '_'"

def validateSnapshotId : Except String Unit :=
  reject (!resourceIdIsValid id)
    "task output snapshot id must use 1-200 ASCII letters, digits, '-' or '_'"

def toAsciiLowercase (value : String) : String :=
  String.ofList (value.toList.map Char.toLower)

def validateResourceIdsFrom (seen : List String) : List TaskResourceRecord → Except String Unit
  | [] => .ok ()
  | record :: rest => do
      validateResourceId record.resource.id
      reject (seen.contains record.resource.id)
        ("duplicate task resource id: " ++ record.resource.id)
      validateResourceIdsFrom (record.resource.id :: seen) rest

def resourceById : Option CacheResourceRef :=
  (resources.find? fun record => record.resource.id = id).map TaskResourceRecord.resource

def varintBytes (value : Nat) : Nat :=
  let bits := if value = 0 then 0 else Nat.log2 value + 1
  (max bits 1 + 6) / 7

def lengthDelimitedFieldBytes (payloadBytes : Nat) : Nat :=
  1 + varintBytes payloadBytes + payloadBytes

def boundArtifactSizes (resources : List TaskResourceRecord) :
    List TaskArtifact → Nat × Nat → Except String (Nat × Nat)
  | [], sizes => .ok sizes
  | artifact :: rest, sizes =>
    match artifact.resource with
    | none => boundArtifactSizes resources rest sizes
    | some reference =>
      match resourceById resources (toAsciiLowercase reference.id) with
      | none => .error ("task artifact references unknown resource: " ++ reference.id)
      | some canonical =>
        let originalArtifactBytes := lengthDelimitedFieldBytes artifact.encodedLen
        let boundArtifact := { artifact with resource := some canonical }
        let boundArtifactBytes := lengthDelimitedFieldBytes boundArtifact.encodedLen
        boundArtifactSizes resources rest
          (sizes.1 - originalArtifactBytes + boundArtifactBytes,
            sizes.2 - resourceStringBytes reference + resourceStringBytes canonical)

def boundResultSizes (resources : List TaskResourceRecord) :
    List TaskResult → Nat × Nat → Except String (Nat × Nat)
  | [], totals => .ok totals
  | result :: rest, totals => do
      let sizes ← boundArtifactSizes resources result.artifacts
        (result.encodedLen, taskResultStringBytes result)
      reject (sizes.1 > maxTaskResultEncodedBytes)
        ("task result cannot exceed 1048576 encoded bytes after resource binding: " ++ result.id)
      boundResultSizes resources rest (totals.1 + sizes.1, totals.2 + sizes.2)

def validateBoundResourceExpansion (resources : List TaskResourceRecord) :
    Except String Unit := do
  let totals ← boundResultSizes resources results
    (resourcesEncodedBytes resources, resourcesStringBytes resources)
  reject (totals.2 > maxTaskOutputStringBytes)
    "task output cannot exceed 8388608 string bytes after resource binding"
  reject (totals.1 > maxTaskOutputEncodedBytes)
    "task output cannot exceed 33554432 encoded bytes after resource binding"

def validateArtifact (resultId : String) (seen : List String) (artifact : TaskArtifact) :
    Except String Unit := do
  let hasResource := artifact.resource.isSome
  let hasLibraryItem := artifact.libraryItemId != ""
  reject (trim artifact.id = "") "task artifact id must not be empty"
  reject (seen.contains artifact.id)
    ("duplicate task artifact id in result " ++ resultId ++ ": " ++ artifact.id)
  reject (TaskArtifactKind.of artifact.kind = .unspecified ||
      TaskArtifactState.of artifact.state = .unspecified)
    ("task artifact has an unspecified or unknown kind/state: " ++ artifact.id)
  validateProblem artifact.problem artifact.id
  reject (hasLibraryItem && blankOrPadded artifact.libraryItemId)
    ("task artifact has an invalid library item id: " ++ artifact.id)
  reject (hasResource && hasLibraryItem)
    ("task artifact cannot have both resource and library item backings: " ++ artifact.id)
  reject (hasLibraryItem && TaskArtifactKind.of artifact.kind != .media)
    ("only media task artifacts can use a library item backing: " ++ artifact.id)
  reject (TaskArtifactState.of artifact.state = .available && !hasResource && !hasLibraryItem)
    ("available task artifact must have exactly one backing: " ++ artifact.id)

def bindArtifact (artifact : TaskArtifact) : Except String TaskArtifact :=
  match artifact.resource with
  | none => .ok artifact
  | some reference =>
    match resourceById resources (toAsciiLowercase reference.id) with
    | none => .error ("task artifact references unknown resource: " ++ reference.id)
    | some canonical => .ok { artifact with resource := some canonical }

def bindArtifactsFrom (resources : List TaskResourceRecord) (resultId : String) :
    List String → List TaskArtifact → Except String (List TaskArtifact)
  | _, [] => .ok []
  | seen, artifact :: rest => do
      validateArtifact resultId seen artifact
      let bound ← bindArtifact resources artifact
      let others ← bindArtifactsFrom resources resultId (artifact.id :: seen) rest
      .ok (bound :: others)

def bindResults (resources : List TaskResourceRecord) :
    List TaskResult → Except String (List TaskResult)
  | [] => .ok []
  | result :: rest => do
      let artifacts ← bindArtifactsFrom resources result.id [] result.artifacts
      let others ← bindResults resources rest
      .ok ({ result with artifacts := artifacts } :: others)

def referencedIds : List String :=
  (results.flatMap TaskResult.artifacts).filterMap fun artifact =>
    artifact.resource.map CacheResourceRef.id

def validateAndBindResources (resources : List TaskResourceRecord) :
    Except String (List TaskResult) := do
  validateResourceIdsFrom [] resources
  validateBoundResourceExpansion results resources
  let bound ← bindResults resources results
  rejectFirst resources (fun record => !(referencedIds bound).contains record.resource.id)
    fun record => "task resource is not referenced by an artifact: " ++ record.resource.id
  .ok bound

end NetPlayer.Outputs
