import NetPlayer.Outputs.Checks
import NetPlayer.Resolver.Routes

/-!
# Results of a v2 download

What a download task reports for one candidate: the failed and the cancelled result, and
the mapping of a published download to a successful result with its resources, their
bodies and the lease of its library item.
-/

namespace NetPlayer.Downloads

open Outputs
open Hls (trim)
open Resolver (BilibiliDownloadError)

inductive CandidateKind where
  | videoPage
  | seasonEpisode
  | collectionItem
  deriving DecidableEq

structure CandidateIdentity where
  kind : CandidateKind
  aid : Option UInt64
  bvid : Option String
  cid : Option UInt64
  epid : Option UInt64
  deriving DecidableEq

structure BilibiliTaskCandidateRecord where
  title : String
  subtitle : String
  sourceKind : String
  contentId : String
  identity : CandidateIdentity
  index : UInt32
  deriving DecidableEq

def CandidateKind.proto : CandidateKind → Int32
  | .videoPage => 1
  | .seasonEpisode => 2
  | .collectionItem => 3

variable (candidate : BilibiliTaskCandidateRecord)

def protoCandidateIdentity : BilibiliContentIdentity where
  kind := candidate.identity.kind.proto
  aid := candidate.identity.aid.getD 0
  bvid := candidate.identity.bvid.getD ""
  cid := candidate.identity.cid.getD 0
  epid := candidate.identity.epid.getD 0

def taskResultSubject : TaskResultSubject where
  provider := "bilibili"
  kind := candidate.sourceKind
  id := candidate.contentId
  index := candidate.index

def taskResultProviderDetails : TaskResultProviderDetails where
  bilibili := some
    { identity := some (protoCandidateIdentity candidate)
      playbackSession := none
      hlsCacheFillStatus := none }

def bilibiliV2ResultId (taskId : String) (offset : Nat) : String :=
  if offset = 0 then taskId else taskId ++ "-result-" ++ toString (offset + 1)

def taskStateSucceeded : Int32 := 3
def taskStateCancelled : Int32 := 6
def categoryResourceLimit : Int32 := 7

variable (id : String)

def candidateResult (candidate : BilibiliTaskCandidateRecord) (state : Int32)
    (progress : TaskResultProgress) (problem : Option TaskProblem) (libraryItemId : String)
    (artifacts : List TaskArtifact) : TaskResult where
  id := id
  state := state
  title := candidate.title
  subtitle := candidate.subtitle
  progress := some progress
  problem := problem
  libraryItemId := libraryItemId
  playbackSource := none
  artifacts := artifacts
  createdAt := none
  updatedAt := none
  subject := some (taskResultSubject candidate)
  providerDetails := some (taskResultProviderDetails candidate)

def toI64Saturating (value : UInt64) : Int64 :=
  Int64.ofNat (min value.toNat (2 ^ 63 - 1))

def successfulDownloadResult (candidate : BilibiliTaskCandidateRecord) (libraryItemId : String)
    (artifacts : List TaskArtifact) (totalBytes : UInt64) : TaskResult :=
  candidateResult id candidate taskStateSucceeded
    { fraction := some 1
      completedBytes := toI64Saturating totalBytes
      totalBytes := toI64Saturating totalBytes
      totalBytesKnown := true
      phase := "completed"
      message := "Downloaded into the LAN cache." }
    none libraryItemId artifacts

def downloadProblem : BilibiliDownloadError → TaskProblem
  | .resourceExhausted _ =>
    { category := categoryResourceLimit
      code := "bilibili.resource_limit"
      message := "The Bilibili download exceeded a server resource limit."
      retryable := true }
  | .cancelled _ =>
    { category := categoryCancelled
      code := "task.cancelled"
      message := "Cancelled by request."
      retryable := false }
  | .failed _ =>
    { category := categoryUpstream
      code := "bilibili.download_failed"
      message := "The Bilibili download failed."
      retryable := true }

def failedDownloadResult (candidate : BilibiliTaskCandidateRecord)
    (error : BilibiliDownloadError) : TaskResult :=
  candidateResult id candidate taskStateFailed
    { fraction := some 0
      completedBytes := 0
      totalBytes := 0
      totalBytesKnown := false
      phase := "failed"
      message := "Bilibili download failed." }
    (some (downloadProblem error)) "" []

def cancelledDownloadResult (candidate : BilibiliTaskCandidateRecord) : TaskResult :=
  candidateResult id candidate taskStateCancelled
    { fraction := some 0
      completedBytes := 0
      totalBytes := 0
      totalBytesKnown := false
      phase := "cancelled"
      message := "Cancelled by request." }
    (some
      { category := categoryCancelled
        code := "task.cancelled"
        message := "Cancelled by request."
        retryable := false })
    "" []

inductive DownloadFileKind where
  | video | audio | flvSegment | cover | subtitle | danmaku | danmakuAss | other
  deriving DecidableEq

def DownloadFileKind.isMedia : DownloadFileKind → Bool
  | .video | .audio | .flvSegment => true
  | _ => false

structure DownloadedFile where
  kind : DownloadFileKind
  path : String
  deriving DecidableEq

structure EntryDownloadReport where
  mux : Option String
  files : List DownloadedFile
  deriving DecidableEq

/-- `totalBytes` is that of the report's summary. -/
structure DownloadReport where
  entries : List EntryDownloadReport
  totalBytes : UInt64
  deriving DecidableEq

structure DownloadPlan where
  chapters : List (List String)
  deriving DecidableEq

inductive DownloadMode where
  | all | videoOnly | audioOnly | subtitleOnly | danmakuOnly | coverOnly | other
  deriving DecidableEq

def downloadModeRequiresMedia : DownloadMode → Bool
  | .all | .videoOnly | .audioOnly => true
  | _ => false

def sidecarOnlyRequiredArtifactKind : DownloadMode → Option TaskArtifactKind
  | .subtitleOnly => some .subtitle
  | .danmakuOnly => some .timedComments
  | .coverOnly => some .coverImage
  | _ => none

def playableEntryOutputCandidates (entry : EntryDownloadReport) : List String :=
  entry.mux.toList ++ (entry.files.filter fun file => file.kind.isMedia).map DownloadedFile.path

def downloadReportOutputPaths (report : DownloadReport) : List String :=
  (report.entries.flatMap fun entry =>
    entry.mux.toList ++ entry.files.map DownloadedFile.path).foldl
      (fun paths path => if paths.contains path then paths else paths ++ [path]) []

def transientDownloadOutputPaths (outputPaths : List String) (libraryOutputPath : Option String) :
    List String :=
  outputPaths.filter fun path => some path != libraryOutputPath

/-- `Path::extension`: what follows the last dot of the file name, if a name precedes it. -/
def pathExtension (path : String) : Option String :=
  let name := (path.toList.reverse.takeWhile fun c => c != '/').reverse
  let after := (name.reverse.takeWhile fun c => c != '.').reverse
  if after.length + 1 < name.length then some (String.ofList after) else none

def sidecarExtension (path : String) : String :=
  (((pathExtension path).map toAsciiLowercase).filter fun extension =>
    extension != "" && extension.utf8ByteSize ≤ 16 && extension.toList.all Char.isAlphanum).getD
      "bin"

def imageContentType (extension : String) : String :=
  match extension with
  | "jpg" | "jpeg" => "image/jpeg"
  | "png" => "image/png"
  | "webp" => "image/webp"
  | "gif" => "image/gif"
  | _ => "application/octet-stream"

def textContentType (extension : String) : String :=
  match extension with
  | "json" => "application/json"
  | "ass" => "text/x-ass; charset=utf-8"
  | "srt" => "application/x-subrip; charset=utf-8"
  | "vtt" => "text/vtt; charset=utf-8"
  | _ => "application/octet-stream"

structure SidecarDescription where
  kind : Int32
  title : String
  format : String
  contentType : String

def artifactMedia : Int32 := 1
def artifactSubtitle : Int32 := 2
def artifactTimedComments : Int32 := 3
def artifactCoverImage : Int32 := 4
def artifactChapters : Int32 := 5
def artifactMetadata : Int32 := 6
def artifactOther : Int32 := 7
def artifactAvailable : Int32 := 2

def sidecarDescription (kind : DownloadFileKind) (path : String) (index : Nat) :
    SidecarDescription :=
  let extension := sidecarExtension path
  match kind with
  | .cover => ⟨artifactCoverImage, "Cover", extension, imageContentType extension⟩
  | .subtitle =>
    ⟨artifactSubtitle, "Subtitle " ++ toString (index + 1), extension,
      textContentType extension⟩
  | .danmaku => ⟨artifactTimedComments, "Danmaku XML", "xml", "application/xml"⟩
  | .danmakuAss =>
    ⟨artifactTimedComments, "Danmaku ASS", "ass", "text/x-ass; charset=utf-8"⟩
  | _ =>
    ⟨artifactOther, "Artifact " ++ toString (index + 1), extension,
      "application/octet-stream"⟩

inductive BilibiliTaskResourceBodySource where
  | cacheFile (sizeBytes : UInt64)
  | bytes (body : List UInt8)
  deriving DecidableEq

structure BilibiliTaskResourceBody where
  resourceId : String
  source : BilibiliTaskResourceBodySource
  deriving DecidableEq

structure MappedV2Artifact where
  artifact : TaskArtifact
  resource : TaskResourceRecord
  body : BilibiliTaskResourceBody

def newResourceId (uuid : BitVec 128) : String :=
  "task-resource-" ++ simpleUuid uuid

def newArtifactId (uuid : BitVec 128) : String :=
  "task-artifact-" ++ simpleUuid uuid

def failed (message : String) : BilibiliDownloadError :=
  .failed ("BBDown adapter failed: " ++ message)

/-- `HeaderValue::from_str`: visible ASCII characters and tabs; the texts here are ASCII. -/
def headerValueIsValid (value : String) : Bool :=
  value.toList.all fun c => c = '\t' || (32 ≤ c.toNat && c.toNat != 127)

def newTaskResourceRecord (resource : CacheResourceRef) : Except String TaskResourceRecord :=
  match validateResourceId resource.id with
  | .error message => .error message
  | .ok () =>
    let id := toAsciiLowercase resource.id
    .ok
      { resource :=
          { resource with
            id
            uri := "/resources/" ++ id
            contentType :=
              if trim resource.contentType == "" || !headerValueIsValid resource.contentType then
                "application/octet-stream"
              else resource.contentType
            sizeBytes := if resource.sizeBytes < 0 then 0 else resource.sizeBytes
            sizeKnown := if resource.sizeBytes < 0 then false else resource.sizeKnown
            supportsByteRanges := true
            etag :=
              if resource.etag.utf8ByteSize > 512 || !headerValueIsValid resource.etag then ""
              else resource.etag }
        bodyIdentity := none
        bodyIdentityMigrationPending := false }

def taskResourceRecord (id contentType : String) (size : Nat) :
    Except BilibiliDownloadError TaskResourceRecord :=
  if 2 ^ 63 ≤ size then
    .error (.resourceExhausted "Bilibili artifact is too large to publish.")
  else
    (newTaskResourceRecord
      { id, uri := "", contentType, sizeBytes := Int64.ofNat size, sizeKnown := true
        supportsByteRanges := true, etag := "\"" ++ id ++ "\"", expiresAt := none }).mapError
      failed

structure ArtifactUuids where
  resource : BitVec 128
  artifact : BitVec 128

variable (uuids : ArtifactUuids)

def mapArtifact (description : SidecarDescription) (size : Nat)
    (source : BilibiliTaskResourceBodySource) : Except BilibiliDownloadError MappedV2Artifact :=
  match taskResourceRecord (newResourceId uuids.resource) description.contentType size with
  | .error error => .error error
  | .ok resource =>
    .ok
      { artifact :=
          { id := newArtifactId uuids.artifact
            kind := description.kind
            state := artifactAvailable
            title := description.title
            format := description.format
            languageTag := ""
            isAiGenerated := false
            resource := some resource.resource
            problem := none
            libraryItemId := "" }
        resource
        body := ⟨newResourceId uuids.resource, source⟩ }

/-- `sidecar` is the size of the file that the publication has validated for the path. -/
def mapSidecarArtifact (file : DownloadedFile) (index : Nat)
    (sidecar : Except BilibiliDownloadError UInt64) :
    Except BilibiliDownloadError MappedV2Artifact :=
  match sidecar with
  | .error error => .error error
  | .ok size =>
    mapArtifact uuids (sidecarDescription file.kind file.path index) size.toNat (.cacheFile size)

def mapGeneratedArtifact (kind : Int32) (title format contentType : String) (body : List UInt8)
    : Except BilibiliDownloadError MappedV2Artifact :=
  mapArtifact uuids ⟨kind, title, format, contentType⟩ body.length (.bytes body)

def libraryMediaArtifact (libraryOutputPath libraryItemId : String) : TaskArtifact where
  id := newArtifactId uuids.artifact
  kind := artifactMedia
  state := artifactAvailable
  title := "Media"
  format := ((pathExtension libraryOutputPath).map toAsciiLowercase).getD "media"
  languageTag := ""
  isAiGenerated := false
  resource := none
  problem := none
  libraryItemId := libraryItemId

structure LibraryItemPublicationLease where
  itemId : String
  itemId_ne : itemId ≠ ""

structure MappedV2DownloadResult where
  result : TaskResult
  libraryItemId : String
  resources : List TaskResourceRecord
  resourceBodies : List BilibiliTaskResourceBody
  libraryItemLease : Option LibraryItemPublicationLease
  transientOutputPaths : List String

/-- What the library and the revalidations around it answer for one path. -/
structure Reservation where
  before : Except BilibiliDownloadError Unit
  lease : Option LibraryItemPublicationLease
  after : Except BilibiliDownloadError Unit

structure MappingOutcomes where
  reservation : Nat → Reservation
  sidecar : Nat → Except BilibiliDownloadError UInt64
  chaptersBody : Except BilibiliDownloadError (List UInt8)
  metadataBody : Except BilibiliDownloadError (List UInt8)
  uuids : Nat → ArtifactUuids

def reserveLibraryItem (reservation : Nat → Reservation) : Nat → List String →
    Except BilibiliDownloadError (Option (LibraryItemPublicationLease × String))
  | _, [] => .ok none
  | index, path :: rest =>
    match (reservation index).before with
    | .error error => .error error
    | .ok () =>
      match (reservation index).lease with
      | none => reserveLibraryItem reservation (index + 1) rest
      | some lease =>
        match (reservation index).after with
        | .error error => .error error
        | .ok () => .ok (some (lease, path))

def mapSidecars (outcomes : MappingOutcomes) : Nat → List DownloadedFile →
    Except BilibiliDownloadError (List MappedV2Artifact)
  | _, [] => .ok []
  | index, file :: rest =>
    match mapSidecarArtifact (outcomes.uuids index) file index (outcomes.sidecar index) with
    | .error error => .error error
    | .ok mapped =>
      match mapSidecars outcomes (index + 1) rest with
      | .error error => .error error
      | .ok others => .ok (mapped :: others)

def mapChapters (outcomes : MappingOutcomes) (index : Nat) (chapters : List String) :
    Except BilibiliDownloadError (List MappedV2Artifact) :=
  if chapters.isEmpty then
    .ok []
  else
    match outcomes.chaptersBody with
    | .error error => .error error
    | .ok body =>
      (mapGeneratedArtifact (outcomes.uuids index) artifactChapters "Chapters" "json"
        "application/json" body).map fun mapped => [mapped]

def mapMetadata (outcomes : MappingOutcomes) (index : Nat) :
    Except BilibiliDownloadError MappedV2Artifact :=
  match outcomes.metadataBody with
  | .error error => .error error
  | .ok body =>
    mapGeneratedArtifact (outcomes.uuids index) artifactMetadata "Metadata" "json"
      "application/json" body

def mappedResult (resultId : String) (candidate : BilibiliTaskCandidateRecord)
    (report : DownloadReport) (outcomes : MappingOutcomes) (count : Nat)
    (reserved : Option (LibraryItemPublicationLease × String))
    (mapped : List MappedV2Artifact) : MappedV2DownloadResult :=
  let libraryItemId := reserved.elim "" fun found => found.1.itemId
  let media := reserved.toList.map fun found =>
    libraryMediaArtifact (outcomes.uuids count) found.2 found.1.itemId
  { result :=
      successfulDownloadResult resultId candidate libraryItemId
        (media ++ mapped.map MappedV2Artifact.artifact) report.totalBytes
    libraryItemId
    resources := mapped.map MappedV2Artifact.resource
    resourceBodies := mapped.map MappedV2Artifact.body
    libraryItemLease := reserved.map Prod.fst
    transientOutputPaths :=
      transientDownloadOutputPaths (downloadReportOutputPaths report)
        (reserved.map Prod.snd) }

def lacksRequiredArtifact (mode : DownloadMode) (artifacts : List TaskArtifact) : Bool :=
  match sidecarOnlyRequiredArtifactKind mode with
  | none => false
  | some required => !artifacts.any fun artifact => TaskArtifactKind.of artifact.kind == required

/-- `map_v2_download_result`, with the validation of the publication. -/
def mapV2DownloadResult (resultId : String) (candidate : BilibiliTaskCandidateRecord)
    (plan : DownloadPlan) (report : DownloadReport) (mode : DownloadMode)
    (outcomes : MappingOutcomes) : Except BilibiliDownloadError MappedV2DownloadResult :=
  match report.entries, plan.chapters with
  | [], _ => .error (.failed "BBDown returned no entry for the selected Bilibili result.")
  | _ :: _ :: _, _ =>
    .error (.failed
      "BBDown returned an ambiguous multi-entry report for one accepted Bilibili result.")
  | [_], [] =>
    .error (.failed "BBDown returned no plan entry for the selected Bilibili result.")
  | [entry], chapters :: _ =>
    match reserveLibraryItem outcomes.reservation 0 (playableEntryOutputCandidates entry) with
    | .error error => .error error
    | .ok reserved =>
      if downloadModeRequiresMedia mode && reserved.isNone then
        .error (.failed
          "BBDown finished but produced no playable cache-library item for the selected result.")
      else
        let files := entry.files.filter fun file => !file.kind.isMedia
        match mapSidecars outcomes 0 files with
        | .error error => .error error
        | .ok sidecars =>
          let media := reserved.toList.map fun found =>
            libraryMediaArtifact (outcomes.uuids (files.length + 2)) found.2 found.1.itemId
          if lacksRequiredArtifact mode
              (media ++ sidecars.map MappedV2Artifact.artifact) then
            .error (.failed
              "BBDown finished but did not produce the requested sidecar artifact.")
          else
            match mapChapters outcomes files.length chapters with
            | .error error => .error error
            | .ok mappedChapters =>
              match mapMetadata outcomes (files.length + 1) with
              | .error error => .error error
              | .ok metadata =>
                .ok (mappedResult resultId candidate report outcomes (files.length + 2)
                  reserved (sidecars ++ mappedChapters ++ [metadata]))

end NetPlayer.Downloads
