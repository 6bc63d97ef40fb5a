import NetPlayer.Hls.PlaylistClosure
import NetPlayer.Hls.SessionSaves

/-!
# The file names of a session's resources

Every file of a resource is named after the resource, and a writer's temporary
file after the file it writes. The names tell the resource and the file apart, but
for one temporary name that two writers of a resource share.
-/

namespace NetPlayer.Hls

open List String

/-- `Path::file_stem`: what stands before the last dot, unless nothing does. -/
def fileStem (name : String) : String :=
  let before := ((name.toList.reverse.dropWhile (· ≠ '.')).drop 1).reverse
  if before = [] then name else String.ofList before

/-- `Path::with_extension`. -/
def withExtension (name extension : String) : String := fileStem name ++ "." ++ extension

/-- The resources that sessions and the transcoding create. -/
inductive ManagedResource
  | video
  | audio
  | alternateVideo (index : Nat)
  | alternateAudio (index : Nat)
  | transcoded

def ManagedResource.id : ManagedResource → String
  | .video => videoSegmentId
  | .audio => audioSegmentId
  | .alternateVideo index => "v" ++ toString index ++ "-video.m4s"
  | .alternateAudio index => "v" ++ toString index ++ "-audio.m4s"
  | .transcoded => hlsTranscodedResourceId

inductive ManagedFile
  | final
  | metadata
  | metadataTemp
  | rangeData
  | rangeManifest
  | rangeManifestTemp
  | rangeFullGetTemp
  | prewarm
  | prewarmTemp
  | prewarmMetadata
  | prewarmMetadataTemp
  | transcodingTemp

/-- The name of a file of a resource in the directory of its session. -/
def ManagedFile.name (resourceId : String) : ManagedFile → String
  | .final => resourceId
  | .metadata => resourceId ++ ".json"
  | .metadataTemp => withExtension (resourceId ++ ".json") "tmp"
  | .rangeData => resourceId ++ ".range.data"
  | .rangeManifest => resourceId ++ ".range.json"
  | .rangeManifestTemp => withExtension (resourceId ++ ".range.json") "tmp"
  | .rangeFullGetTemp => resourceId ++ ".range-full.tmp"
  | .prewarm => resourceId ++ ".prewarm"
  | .prewarmTemp => withExtension (resourceId ++ ".prewarm") "tmp"
  | .prewarmMetadata => resourceId ++ ".prewarm.json"
  | .prewarmMetadataTemp => withExtension (resourceId ++ ".prewarm.json") "tmp"
  | .transcodingTemp => withExtension resourceId "transcode.tmp"

/-- The name without the extension of a resource. -/
def ManagedResource.stem : ManagedResource → String
  | .video => "video"
  | .audio => "audio"
  | .alternateVideo index => "v" ++ toString index ++ "-video"
  | .alternateAudio index => "v" ++ toString index ++ "-audio"
  | .transcoded => "transcoded"

/-- What follows the stem of a resource in the name of a file. -/
def ManagedFile.ending : ManagedFile → String
  | .final => ".m4s" ++ ""
  | .metadata => ".m4s" ++ ".json"
  | .metadataTemp => ".m4s" ++ ".tmp"
  | .rangeData => ".m4s" ++ ".range.data"
  | .rangeManifest => ".m4s" ++ ".range.json"
  | .rangeManifestTemp => ".m4s" ++ ".range" ++ ".tmp"
  | .rangeFullGetTemp => ".m4s" ++ ".range-full.tmp"
  | .prewarm => ".m4s" ++ ".prewarm"
  | .prewarmTemp => ".m4s" ++ ".tmp"
  | .prewarmMetadata => ".m4s" ++ ".prewarm.json"
  | .prewarmMetadataTemp => ".m4s" ++ ".prewarm" ++ ".tmp"
  | .transcodingTemp => ".transcode.tmp"

theorem fileStem_append {before after : String} (hb : before ≠ "") (ha : '.' ∉ after.toList) :
    fileStem (before ++ "." ++ after) = before := by
  have hdrop : ((before ++ "." ++ after).toList.reverse.dropWhile (· ≠ '.')).drop 1 =
      before.toList.reverse := by
    have hskip : ∀ c ∈ after.toList.reverse, decide (c ≠ '.') = true := by
      intro c hc
      refine decide_eq_true fun hdot => ha ?_
      rwa [← hdot, ← mem_reverse]
    simp only [toList_append, reverse_append]
    rw [dropWhile_append_of_pos hskip]
    rfl
  have hne : before.toList ≠ [] := fun h => hb (toList_eq_nil_iff.mp h)
  unfold fileStem
  simp only [hdrop, reverse_reverse]
  rw [if_neg hne, ofList_toList]

theorem takeWhile_stem {stem ending : List Char} (hstem : '.' ∉ stem)
    (hending : ending.head? = some '.') : (stem ++ ending).takeWhile (· ≠ '.') = stem := by
  have hkeep : ∀ c ∈ stem, decide (c ≠ '.') = true := by
    intro c hc
    exact decide_eq_true fun hdot => hstem (by rwa [← hdot])
  rw [takeWhile_append_of_pos hkeep]
  cases ending with
  | nil => cases hending
  | cons c rest =>
    cases hending
    simp

theorem split_name {stem stem' ending ending' : String} (hstem : '.' ∉ stem.toList)
    (hstem' : '.' ∉ stem'.toList) (hending : ending.toList.head? = some '.')
    (hending' : ending'.toList.head? = some '.') (h : stem ++ ending = stem' ++ ending') :
    stem = stem' ∧ ending = ending' := by
  have hlists := congrArg String.toList h
  rw [toList_append, toList_append] at hlists
  have htake := congrArg (takeWhile (· ≠ '.')) hlists
  rw [takeWhile_stem hstem hending, takeWhile_stem hstem' hending'] at htake
  rw [htake] at hlists
  exact ⟨toList_injective htake, toList_injective (append_cancel_left hlists)⟩

variable {resource other : ManagedResource} {file otherFile : ManagedFile}

theorem dot_notMem_stem : '.' ∉ resource.stem.toList := by
  have hdigits (index : Nat) : '.' ∉ (toString index).toList := fun h =>
    absurd (isDigit_of_mem_toString h) (by decide)
  cases resource with
  | video | audio | transcoded => decide
  | alternateVideo index | alternateAudio index => simpa [ManagedResource.stem] using hdigits index

theorem toList_alternate (index : Nat) (kind : String) :
    ("v" ++ toString index ++ kind).toList = 'v' :: ((toString index).toList ++ kind.toList) := by
  rw [toList_append, toList_append]
  rfl

theorem alternate_inj {i j : Nat} {kind kind' : String}
    (hkind : kind.toList.length = kind'.toList.length)
    (h : "v" ++ toString i ++ kind = "v" ++ toString j ++ kind') : i = j ∧ kind = kind' := by
  have hlists := congrArg String.toList h
  rw [toList_alternate, toList_alternate, List.cons.injEq] at hlists
  obtain ⟨hnumber, hr⟩ := append_inj' hlists.2 hkind
  exact ⟨toString_nat_inj (toList_injective hnumber), toList_injective hr⟩

theorem isDigit_second {index : Nat} {kind stem : String} (h : "v" ++ toString index ++ kind = stem) :
    (stem.toList[1]?).any Char.isDigit = true := by
  rw [← h, toList_alternate]
  cases hnumber : (toString index).toList with
  | nil => exact absurd (toList_eq_nil_iff.mp hnumber) (by simp)
  | cons c rest =>
    have hdigit := isDigit_of_mem_toString (hnumber ▸ mem_cons_self)
    simpa using hdigit

theorem stem_inj (h : resource.stem = other.stem) : resource = other := by
  cases resource with
  | alternateVideo index =>
    cases other with
    | alternateVideo => exact congrArg _ (alternate_inj rfl h).1
    | alternateAudio => exact absurd (@alternate_inj _ _ "-video" "-audio" (by decide) h).2 (by decide)
    | _ => exact absurd (isDigit_second h) (by decide)
  | alternateAudio index =>
    cases other with
    | alternateVideo => exact absurd (@alternate_inj _ _ "-audio" "-video" (by decide) h).2 (by decide)
    | alternateAudio => exact congrArg _ (alternate_inj rfl h).1
    | _ => exact absurd (isDigit_second h) (by decide)
  | _ =>
    cases other with
    | alternateVideo | alternateAudio => exact absurd (isDigit_second h.symm) (by decide)
    | _ => first
      | rfl
      | exact absurd h (by decide)

theorem stem_ne_empty : resource.stem ≠ "" := by
  cases resource with
  | alternateVideo | alternateAudio => exact fun h => absurd (isDigit_second h) (by decide)
  | _ => decide

theorem id_eq : resource.id = resource.stem ++ ".m4s" := by
  cases resource with
  | alternateVideo | alternateAudio =>
    simp only [ManagedResource.id, ManagedResource.stem, String.append_assoc]
    rfl
  | _ => rfl

theorem withExtension_stem {middle ending dotted after extension : String}
    (hdotted : dotted = "." ++ after) (ha : '.' ∉ after.toList)
    (hending : ending = "." ++ extension) :
    withExtension (resource.stem ++ (middle ++ dotted)) extension =
      resource.stem ++ (middle ++ ending) := by
  have hb : resource.stem ++ middle ≠ "" := fun h =>
    stem_ne_empty (append_eq_empty_iff.mp h).1
  have hname : resource.stem ++ (middle ++ dotted) = resource.stem ++ middle ++ "." ++ after := by
    rw [hdotted]
    simp only [String.append_assoc]
  unfold withExtension
  rw [hname, fileStem_append hb ha, hending]
  simp only [String.append_assoc]

theorem name_eq : file.name resource.id = resource.stem ++ file.ending := by
  have hjoin (ending : String) : resource.id ++ ending = resource.stem ++ (".m4s" ++ ending) := by
    rw [id_eq, String.append_assoc]
  have htmp : ".tmp" = "." ++ "tmp" := rfl
  have hjson : ".json" = "." ++ "json" := rfl
  have hmid (middle : String) : ".m4s" ++ (middle ++ ".json") = ".m4s" ++ middle ++ ".json" :=
    String.append_assoc.symm
  cases file with
  | final => exact id_eq
  | metadataTemp =>
    show withExtension (resource.id ++ ".json") "tmp" = _
    rw [hjoin]
    exact withExtension_stem hjson (by decide) htmp
  | rangeManifestTemp =>
    show withExtension (resource.id ++ (".range" ++ ".json")) "tmp" = _
    rw [hjoin, hmid]
    exact withExtension_stem hjson (by decide) htmp
  | prewarmTemp =>
    show withExtension (resource.id ++ ".prewarm") "tmp" = _
    rw [hjoin]
    exact @withExtension_stem _ _ _ _ "prewarm" _ rfl (by decide) htmp
  | prewarmMetadataTemp =>
    show withExtension (resource.id ++ (".prewarm" ++ ".json")) "tmp" = _
    rw [hjoin, hmid]
    exact withExtension_stem hjson (by decide) htmp
  | transcodingTemp =>
    have hid : resource.id = resource.stem ++ "." ++ "m4s" := by
      rw [id_eq, String.append_assoc]
      rfl
    show withExtension resource.id "transcode.tmp" = _
    rw [withExtension, hid, fileStem_append stem_ne_empty (by decide), String.append_assoc]
    rfl
  | _ => exact hjoin _

theorem head_ending : file.ending.toList.head? = some '.' := by
  cases file with
  | transcodingTemp => decide
  | rangeManifestTemp | prewarmMetadataTemp =>
    rw [ManagedFile.ending, toList_append, toList_append, head?_append, head?_append]
    decide
  | _ =>
    rw [ManagedFile.ending, toList_append, head?_append]
    decide

/-- The temporary files that the writers of the metadata and of the prewarmed data both call
`tmp`. -/
def SharesTemp (file otherFile : ManagedFile) : Prop :=
  file = .metadataTemp ∧ otherFile = .prewarmTemp ∨ file = .prewarmTemp ∧ otherFile = .metadataTemp

theorem ending_eq (h : file.ending = otherFile.ending) :
    file = otherFile ∨ SharesTemp file otherFile := by
  cases file <;> cases otherFile <;> first
    | exact .inl rfl
    | exact .inr (.inl ⟨rfl, rfl⟩)
    | exact .inr (.inr ⟨rfl, rfl⟩)
    | exact absurd h (by decide)

/-- Two files of the same name are the same file of one resource, or the two temporary files that
its metadata and its prewarmed data share; and no file of a resource is the session's. -/
theorem managed_file_names_distinct (resource other : ManagedResource)
    (file otherFile : ManagedFile) :
    (file.name resource.id = otherFile.name other.id ↔
      resource = other ∧ (file = otherFile ∨ SharesTemp file otherFile)) ∧
    file.name resource.id ≠ "session.json" ∧
    file.name resource.id ≠ withExtension "session.json" "tmp" := by
  have hsess {ending : String} (hending : ending.toList.head? = some '.') :
      resource.stem ++ file.ending ≠ "session" ++ ending := by
    intro h
    have hstem := (split_name dot_notMem_stem (by decide) head_ending hending h).1
    cases resource with
    | alternateVideo | alternateAudio => exact absurd (isDigit_second hstem) (by decide)
    | _ => exact absurd hstem (by decide)
  rw [name_eq, name_eq]
  refine ⟨⟨fun h => ?_, ?_⟩, @hsess ".json" (by decide), @hsess ".tmp" (by decide)⟩
  · obtain ⟨hstem, hending⟩ := split_name dot_notMem_stem dot_notMem_stem head_ending head_ending h
    exact ⟨stem_inj hstem, ending_eq hending⟩
  · rintro ⟨rfl, rfl | ⟨rfl, rfl⟩ | ⟨rfl, rfl⟩⟩ <;> rfl

theorem metadata_and_prewarm_share_temp :
    ¬∀ (resource other : ManagedResource) (file otherFile : ManagedFile),
      file.name resource.id = otherFile.name other.id → resource = other ∧ file = otherFile := by
  intro h
  have hname : ManagedFile.metadataTemp.name ManagedResource.video.id =
      ManagedFile.prewarmTemp.name ManagedResource.video.id := by decide
  cases (h _ _ _ _ hname).2

end NetPlayer.Hls
