import NetPlayer.Hls.Playlists

/-!
# What a playlist names is found again

The resources of a session are numbered by the place of their variant, so the names
of two resources differ, and the first match of a lookup is the only one.
-/

namespace NetPlayer.Hls

open HlsPlaybackSession List Option HlsVariant Nat

variable {m n i j start : Nat}

theorem toString_nat_inj (h : toString m = toString n) : m = n := by
  rw [toString_eq_ofList_toDigits, toString_eq_ofList_toDigits] at h
  have hdigits : Nat.toDigits 10 m = Nat.toDigits 10 n := by
    have hlists := congrArg String.toList h
    rwa [String.toList_ofList, String.toList_ofList] at hlists
  rw [← @Nat.ofDigitChars_toDigits 10 m (by omega) (by omega), hdigits,
    ofDigitChars_toDigits (by omega) (by omega)]

theorem isDigit_of_mem_toString {c : Char} (h : c ∈ (toString n).toList) : c.isDigit = true := by
  rw [toString_eq_ofList_toDigits, String.toList_ofList] at h
  exact isDigit_of_mem_toDigits (by omega) (by omega) h

def resourceStem (index : Nat) (kind : String) : String :=
  if index = 0 then kind else "v" ++ toString index ++ "-" ++ kind

theorem toList_resourceStem {index : Nat} (h : index ≠ 0) (kind : String) :
    (resourceStem index kind).toList = 'v' :: ((toString index).toList ++ '-' :: kind.toList) := by
  unfold resourceStem
  rw [if_neg h, String.toList_append, String.toList_append, String.toList_append]
  simp

variable {kind kind' first second ending new value videoId audioId rest sessionId title : String}

theorem resourceStem_inj (hkind : kind.toList.length = kind'.toList.length)
    (h : resourceStem i kind = resourceStem j kind') : i = j ∧ kind = kind' := by
  have hlists := congrArg String.toList h
  by_cases hi : i = 0
  · by_cases hj : j = 0
    · unfold resourceStem at h
      rw [if_pos hi, if_pos hj] at h
      exact ⟨hi.trans hj.symm, h⟩
    · rw [toList_resourceStem hj] at hlists
      unfold resourceStem at hlists
      rw [if_pos hi] at hlists
      have hlens := congrArg List.length hlists
      rw [length_cons, length_append, length_cons] at hlens
      omega
  · by_cases hj : j = 0
    · rw [toList_resourceStem hi] at hlists
      unfold resourceStem at hlists
      rw [if_pos hj] at hlists
      have hlens := congrArg List.length hlists
      rw [length_cons, length_append, length_cons] at hlens
      omega
    · rw [toList_resourceStem hi, toList_resourceStem hj, List.cons.injEq] at hlists
      have hparts := append_inj' hlists.2 (by simpa using hkind)
      have htail := (List.cons.inj hparts.2).2
      exact ⟨toString_nat_inj (String.toList_injective hparts.1), String.toList_injective htail⟩

theorem stripSuffix_append (stem ending : String) :
    stripSuffix (stem ++ ending) ending = some stem := by
  unfold stripSuffix
  rw [String.toList_append, if_pos (suffix_append _ _), length_append,
    Nat.add_sub_cancel, take_left, String.ofList_toList]

theorem mediaPlaylistId_m4s (stem : String) :
    mediaPlaylistId (stem ++ ".m4s") = stem ++ ".m3u8" := by
  unfold mediaPlaylistId
  rw [stripSuffix_append]

theorem append_right_inj (h : first ++ ending = second ++ ending) : first = second := by
  have hlists := congrArg String.toList h
  rw [String.toList_append, String.toList_append] at hlists
  exact String.toList_injective (append_cancel_right hlists)

theorem replaceChar_eq_self {old : Char} (h : old ∉ value.toList) :
    replaceChar old new value = value := by
  have hchars : ∀ chars : List Char, old ∉ chars →
      (chars.flatMap fun c => if c = old then new.toList else [c]) = chars := by
    intro chars hnot
    induction chars with
    | nil => rfl
    | cons c rest ih =>
      have hne : c ≠ old := fun heq => hnot (heq ▸ mem_cons_self)
      rw [flatMap_cons, if_neg hne, ih fun hin => hnot (mem_cons_of_mem _ hin)]
      rfl
  unfold replaceChar
  rw [hchars _ h, String.ofList_toList]

/-- What needs no escape. -/
def Plain (value : String) : Prop := backslash ∉ value.toList ∧ quote ∉ value.toList

instance (value : String) : Decidable (Plain value) := inferInstanceAs (Decidable (_ ∧ _))

theorem escapeQuoted_eq_self (h : Plain value) : escapeQuoted value = value := by
  unfold escapeQuoted
  rw [replaceChar_eq_self h.1, replaceChar_eq_self h.2]

theorem Plain.append (h : Plain first) (h' : Plain second) :
    Plain (first ++ second) := by
  unfold Plain
  rw [String.toList_append, mem_append, mem_append]
  exact ⟨not_or.mpr ⟨h.1, h'.1⟩, not_or.mpr ⟨h.2, h'.2⟩⟩

theorem plain_toString (n : Nat) : Plain (toString n) := by
  constructor
  · intro h
    exact absurd (isDigit_of_mem_toString h) (by decide)
  · intro h
    exact absurd (isDigit_of_mem_toString h) (by decide)

theorem plain_resourceStem (index : Nat) (h : Plain kind) : Plain (resourceStem index kind) := by
  unfold resourceStem
  split
  · exact h
  · have hs : Plain "v" := by decide
    have hdash : Plain "-" := by decide
    exact ((hs.append (plain_toString index)).append hdash).append h

theorem plain_audioGroupId (index : Nat) : Plain (audioGroupId index) := by
  unfold audioGroupId
  split
  · decide
  · have hs : Plain "audio-v" := by decide
    exact hs.append (plain_toString index)

theorem audioGroupId_inj (h : audioGroupId i = audioGroupId j) : i = j := by
  have hlens := congrArg (fun value => value.toList.length) h
  unfold audioGroupId at h hlens
  split at h
  · split at h
    · omega
    · next hi hj =>
        rw [if_pos hi, if_neg hj] at hlens
        simp at hlens
  · split at h
    · next hi hj =>
        rw [if_neg hi, if_pos hj] at hlens
        simp at hlens
    · have hlists := congrArg String.toList h
      rw [String.toList_append, String.toList_append] at hlists
      exact toString_nat_inj (String.toList_injective (append_cancel_left hlists))

structure HasResourceIds (index : Nat) (variant : HlsVariant) : Prop where
  video : variant.video.id = resourceStem index "video" ++ ".m4s"
  audio : ∀ audio, variant.audio = some audio → audio.id = resourceStem index "audio" ++ ".m4s"

def Numbered (variants : List HlsVariant) : Prop :=
  ∀ index variant, variants[index]? = some variant → HasResourceIds index variant

theorem Numbered.take {variants : List HlsVariant} (h : Numbered variants) (count : Nat) :
    Numbered (variants.take count) := by
  intro index variant hget
  apply h index variant
  rw [List.getElem?_take] at hget
  split at hget
  · exact hget
  · cases hget

theorem hasResourceIds_fromAdapter {variant : BilibiliPlaybackVariant} {built : HlsVariant}
    {index : Nat}
    (h : fromAdapterWithResourceIds variant videoId audioId = .ok built)
    (hvideo : videoId = resourceStem index "video" ++ ".m4s")
    (haudio : audioId = resourceStem index "audio" ++ ".m4s") : HasResourceIds index built := by
  unfold fromAdapterWithResourceIds at h
  split at h
  · cases h
  cases h
  constructor
  · exact hvideo
  · intro audio hs
    obtain ⟨request, _, rfl⟩ := map_eq_some_iff.mp hs
    exact haudio

theorem alternateId_eq {index : Nat} (h : index ≠ 0) (hr : "-" ++ kind ++ ".m4s" = rest) :
    "v" ++ toString index ++ rest = resourceStem index kind ++ ".m4s" := by
  unfold resourceStem
  rw [if_neg h, ← hr]
  simp only [String.append_assoc]

variable {selected : BilibiliPlaybackVariant}

theorem alternatesFrom_numbered [FrameRates] {variants : List BilibiliPlaybackVariant}
    {alternates : List HlsVariant} (hs : start ≠ 0)
    (h : alternatesFrom selected start variants = .ok alternates) :
    ∀ index variant, alternates[index]? = some variant →
      HasResourceIds (start + index) variant := by
  induction variants generalizing start alternates with
  | nil =>
    cases h
    intro index variant hget
    cases hget
  | cons variant rest ih =>
    rw [alternatesFrom] at h
    split at h
    · cases hbuilt : fromAdapterWithResourceIds variant
          ("v" ++ toString start ++ "-video.m4s") ("v" ++ toString start ++ "-audio.m4s") with
      | error error =>
        rw [hbuilt] at h
        cases h
      | ok first =>
        rw [hbuilt] at h
        cases hr : alternatesFrom selected (start + 1) rest with
        | error error =>
          rw [hr] at h
          cases h
        | ok others =>
          rw [hr] at h
          cases h
          have hvideo : "v" ++ toString start ++ "-video.m4s" =
              resourceStem start "video" ++ ".m4s" := alternateId_eq hs (by decide)
          have haudio : "v" ++ toString start ++ "-audio.m4s" =
              resourceStem start "audio" ++ ".m4s" := alternateId_eq hs (by decide)
          intro index other hget
          cases index with
          | zero =>
            cases hget
            exact hasResourceIds_fromAdapter hbuilt hvideo haudio
          | succ index =>
            have hnumbered := ih (succ_ne_zero _) hr index other hget
            have hplace : start.succ + index = start + (index + 1) := by omega
            exact hplace ▸ hnumbered
    · exact ih hs h

theorem fromPlaybackEntry_numbered [FrameRates]
    {abr : BilibiliPlaybackAbrMetadata} {variants : List BilibiliPlaybackVariant}
    {policy : PlaybackPolicy} {session : HlsPlaybackSession}
    (h : fromPlaybackEntryWithPolicy sessionId title selected abr variants
      policy = .ok session) : Numbered session.resourceVariants := by
  unfold fromPlaybackEntryWithPolicy fromSelectedVariant at h
  split at h
  · cases h
  cases hvar : HlsVariant.fromAdapter selected with
  | error error =>
    rw [hvar] at h
    cases h
  | ok hlsVariant =>
    rw [hvar] at h
    cases halts : playableAlternateVariants selected variants with
    | error error =>
      rw [halts] at h
      cases h
    | ok alternates =>
      rw [halts] at h
      cases h
      intro index variant hget
      cases index with
      | zero =>
        cases hget
        exact hasResourceIds_fromAdapter hvar rfl rfl
      | succ index =>
        have hget : alternates[index]? = some variant := hget
        unfold playableAlternateVariants at halts
        split at halts
        · cases halts
          cases hget
        have hnumbered := alternatesFrom_numbered Nat.one_ne_zero halts index variant hget
        rw [Nat.add_comm] at hnumbered
        exact hnumbered

theorem replaceVariantCandidates_hasResourceIds {index : Nat} {accepted : HlsVariant}
    {candidate : BilibiliPlaybackVariant} (h : HasResourceIds index accepted) :
    HasResourceIds index (replaceVariantCandidates accepted candidate) := by
  unfold replaceVariantCandidates
  constructor
  · dsimp only
    split
    · exact h.video
    · exact h.video
  · intro audio hs
    dsimp only at hs
    split at hs
    · next old fresh hold _ =>
        cases hs
        exact h.audio old hold
    · exact h.audio audio hs

theorem refreshes_numbered {session refreshed : HlsPlaybackSession}
    {entry : BilibiliPlaybackEntry} (h : Refreshes session entry refreshed)
    (hnumbered : Numbered session.resourceVariants) : Numbered refreshed.resourceVariants := by
  intro index fresh hget
  have hlen := h.variants.length_eq
  obtain ⟨hi, hfr⟩ := List.getElem?_eq_some_iff.mp hget
  have hrefd := forall₂_iff_get.mp h.variants |>.2 index (by omega) hi
  obtain ⟨candidate, hrefr, _⟩ := hrefd
  rw [← hfr]
  have hrepl := hrefr.replaced
  rw [get_eq_getElem, get_eq_getElem] at hrepl
  rw [hrepl]
  exact replaceVariantCandidates_hasResourceIds
    (hnumbered index _ (List.getElem?_eq_getElem (by omega)))

inductive PlaybackSession [FrameRates] : HlsPlaybackSession → Prop
  | built {sessionId title : String} {selected : BilibiliPlaybackVariant}
      {abr : BilibiliPlaybackAbrMetadata} {variants : List BilibiliPlaybackVariant}
      {policy : PlaybackPolicy} {session : HlsPlaybackSession}
      (h : fromPlaybackEntryWithPolicy sessionId title selected abr variants
        policy = .ok session) : PlaybackSession session
  | accepted {session : HlsPlaybackSession} (identity : Option BilibiliContentIdentity)
      (h : PlaybackSession session) :
      PlaybackSession { session with acceptedIdentity := identity }
  | refreshed {session refreshed : HlsPlaybackSession} {plan : BilibiliPlaybackPlan}
      (h : PlaybackSession session) (hok : withRefreshedMediaRequests session plan = .ok refreshed) :
      PlaybackSession refreshed

theorem PlaybackSession.numbered [FrameRates] {session : HlsPlaybackSession}
    (h : PlaybackSession session) : Numbered session.resourceVariants := by
  induction h with
  | built h => exact fromPlaybackEntry_numbered h
  | accepted identity h ih => exact ih
  | @refreshed session refreshed plan h hok ih =>
    cases hident : session.acceptedIdentity with
    | none =>
      unfold withRefreshedMediaRequests at hok
      rw [hident] at hok
      cases hok
    | some identity =>
      obtain ⟨_, entry, _, _, hrefr⟩ := (withRefreshedMediaRequests_ok hident).mp hok
      exact refreshes_numbered hrefr ih

theorem PlaybackSession.advertised_numbered [FrameRates] {session : HlsPlaybackSession}
    (h : PlaybackSession session) : Numbered session.advertisedVariants :=
  h.numbered.take (_ + 1)

theorem findSome?_at {α β : Type} {f : α → Option β} {values : List α} {index : Nat} {value : α}
    {found : β} (hget : values[index]? = some value)
    (hb : ∀ i other, i < index → values[i]? = some other → f other = none)
    (hfound : f value = some found) : values.findSome? f = some found := by
  induction values generalizing index with
  | nil => cases hget
  | cons first rest ih =>
    cases index with
    | zero =>
      cases hget
      rw [List.findSome?_cons, hfound]
    | succ index =>
      rw [List.findSome?_cons, hb 0 first (succ_pos _) rfl]
      apply ih hget
      intro i other hlt ho
      exact hb (i + 1) other (succ_lt_succ hlt) ho

section

variable {variants : List HlsVariant} {index : Nat} {variant : HlsVariant}

theorem HasResourceIds.videoPlaylistId (h : HasResourceIds index variant) :
    variant.videoPlaylistId = resourceStem index "video" ++ ".m3u8" := by
  unfold HlsVariant.videoPlaylistId
  rw [h.video, mediaPlaylistId_m4s]

variable {audio : HlsMediaResource}

theorem HasResourceIds.audioPlaylistId (h : HasResourceIds index variant)
    (haudio : variant.audio = some audio) :
    mediaPlaylistId audio.id = resourceStem index "audio" ++ ".m3u8" := by
  rw [h.audio audio haudio, mediaPlaylistId_m4s]

variable {kind ending playlistId : String}

theorem place_ne (h : i < j) :
    resourceStem j kind ++ ending ≠ resourceStem i kind ++ ending := by
  intro heq
  have hs := resourceStem_inj rfl (append_right_inj heq)
  omega

theorem video_ne_audio :
    resourceStem i "video" ++ ending ≠ resourceStem j "audio" ++ ending := by
  intro heq
  have hs := resourceStem_inj (by decide) (append_right_inj heq)
  exact absurd hs.2 (by decide)

section

variable (h : Numbered variants) (hget : variants[index]? = some variant)
include h hget

theorem mediaPlaylistResourceFrom_video :
    mediaPlaylistResourceFrom variants variant.videoPlaylistId =
      some (variant, variant.video) := by
  have hids := h index variant hget
  apply findSome?_at hget
  · intro i other hlt ho
    have hotherIds := h i other ho
    rw [hids.videoPlaylistId, hotherIds.videoPlaylistId, if_neg (place_ne hlt)]
    cases haudio : other.audio with
    | none => rfl
    | some audio =>
      dsimp only
      rw [hotherIds.audioPlaylistId haudio, if_neg (video_ne_audio)]
  · exact if_pos rfl

theorem mediaPlaylistResourceFrom_audio (haudio : variant.audio = some audio) :
    mediaPlaylistResourceFrom variants (mediaPlaylistId audio.id) =
      some (variant, audio) := by
  have hids := h index variant hget
  apply findSome?_at hget
  · intro i other hlt ho
    have hotherIds := h i other ho
    rw [hids.audioPlaylistId haudio, hotherIds.videoPlaylistId, if_neg (video_ne_audio.symm)]
    cases hotherAudio : other.audio with
    | none => rfl
    | some otherAudio =>
      dsimp only
      rw [hotherIds.audioPlaylistId hotherAudio, if_neg (place_ne hlt)]
  · rw [hids.audioPlaylistId haudio, hids.videoPlaylistId, if_neg (video_ne_audio.symm), haudio]
    dsimp only
    rw [hids.audioPlaylistId haudio, if_pos rfl]

theorem mediaResourceFrom_video :
    mediaResourceFrom variants variant.video.id =
      some (variant, variant.video) := by
  have hids := h index variant hget
  apply findSome?_at hget
  · intro i other hlt ho
    have hotherIds := h i other ho
    rw [hids.video, hotherIds.video, if_neg (place_ne hlt)]
    cases haudio : other.audio with
    | none => rfl
    | some audio =>
      dsimp only
      rw [hotherIds.audio audio haudio, if_neg (video_ne_audio)]
  · exact if_pos rfl

theorem mediaResourceFrom_audio
    (haudio : variant.audio = some audio) :
    mediaResourceFrom variants audio.id = some (variant, audio) := by
  have hids := h index variant hget
  apply findSome?_at hget
  · intro i other hlt ho
    have hotherIds := h i other ho
    rw [hids.audio audio haudio, hotherIds.video, if_neg (video_ne_audio.symm)]
    cases hotherAudio : other.audio with
    | none => rfl
    | some otherAudio =>
      dsimp only
      rw [hotherIds.audio otherAudio hotherAudio, if_neg (place_ne hlt)]
  · rw [hids.audio audio haudio, hids.video, if_neg (video_ne_audio.symm), haudio]
    dsimp only
    rw [hids.audio audio haudio, if_pos rfl]

end

theorem mediaPlaylistResourceFrom_mem {resource : HlsMediaResource}
    (h : mediaPlaylistResourceFrom variants playlistId =
      some (variant, resource)) :
    variant ∈ variants ∧ (resource = variant.video ∨ variant.audio = some resource) := by
  obtain ⟨other, hmem, hfound⟩ := exists_of_findSome?_eq_some h
  split at hfound
  · cases hfound
    exact ⟨hmem, .inl rfl⟩
  split at hfound
  · next audio haudio =>
      split at hfound
      · cases hfound
        exact ⟨hmem, .inr haudio⟩
      · cases hfound
  · cases hfound

end

section

variable {session : HlsPlaybackSession} {isVariantAdvertisable : HlsVariant → Bool}

instance : Std.Total fun a b : HlsVariant => a.bandwidth ≤ b.bandwidth :=
  ⟨fun _ _ => Nat.le_total _ _⟩

instance : IsTrans HlsVariant fun a b => a.bandwidth ≤ b.bandwidth := ⟨fun _ _ _ => le_trans⟩

theorem advertisedVariantsWithFilter_cases :
    (session.advertisedVariants.filter isVariantAdvertisable ≠ [] ∧
      session.advertisedVariantsWithFilter isVariantAdvertisable =
        session.advertisedVariants.filter isVariantAdvertisable) ∨
    (session.advertisedVariants.filter isVariantAdvertisable = [] ∧
      ∃ lowest ∈ session.advertisedVariants,
        session.advertisedVariantsWithFilter isVariantAdvertisable = [lowest] ∧
        ∀ other ∈ session.advertisedVariants, lowest.bandwidth ≤ other.bandwidth) := by
  unfold advertisedVariantsWithFilter
  dsimp only
  split
  · next hs => exact .inl ⟨hs, rfl⟩
  next hnone =>
    refine .inr ⟨not_not.mp hnone, ?_⟩
    have hperm := perm_insertionSort (fun a b : HlsVariant => a.bandwidth ≤ b.bandwidth)
      session.advertisedVariants
    have hsorted := pairwise_insertionSort
      (fun a b : HlsVariant => a.bandwidth ≤ b.bandwidth) session.advertisedVariants
    cases hlist : session.advertisedVariants.insertionSort fun a b => a.bandwidth ≤ b.bandwidth with
    | nil =>
      rw [hlist] at hperm
      exact absurd hperm.symm.eq_nil (by
        exact cons_ne_nil _ _)
    | cons lowest rest =>
      rw [hlist] at hperm hsorted
      refine ⟨lowest, hperm.mem_iff.mp mem_cons_self, rfl, fun other ho => ?_⟩
      rcases mem_cons.mp (hperm.mem_iff.mpr ho) with rfl | hr
      · exact le_rfl
      · exact (pairwise_cons.mp hsorted).1 other hr

theorem mem_advertisedVariants {variant : HlsVariant}
    (h : variant ∈ session.advertisedVariantsWithFilter isVariantAdvertisable) :
    variant ∈ session.advertisedVariants := by
  rcases @advertisedVariantsWithFilter_cases session isVariantAdvertisable with
    ⟨_, heq⟩ | ⟨_, lowest, hlowest, heq, _⟩
  · rw [heq] at h
    exact mem_of_mem_filter h
  · rw [heq, mem_singleton] at h
    exact h ▸ hlowest

end

def Resolves (session : HlsPlaybackSession) (uri : String) (variant : HlsVariant)
    (resource : HlsMediaResource) : Prop :=
  ∃ playlistId, uri = "segments/" ++ playlistId ∧
    session.servableMediaPlaylistResourceWithVariant playlistId = some (variant.id, resource)

section

variable {session : HlsPlaybackSession} {isVariantAdvertisable : HlsVariant → Bool}
  {variant : HlsVariant} (h : Numbered session.advertisedVariants)

include h in
theorem resolves_video (hmem : variant ∈ session.advertisedVariants) :
    Resolves session (playlistUri variant.videoPlaylistId) variant variant.video := by
  obtain ⟨index, hget⟩ := mem_iff_getElem?.mp hmem
  have hids := h index variant hget
  have hplain : Plain (resourceStem index "video" ++ ".m3u8") :=
    (plain_resourceStem index (by decide)).append (by decide)
  refine ⟨variant.videoPlaylistId, ?_, ?_⟩
  · unfold playlistUri
    rw [hids.videoPlaylistId, escapeQuoted_eq_self hplain]
  · unfold servableMediaPlaylistResourceWithVariant
    rw [mediaPlaylistResourceFrom_video h hget]
    rfl

include h in
theorem resolves_audio (hmem : variant ∈ session.advertisedVariants) {audio : HlsMediaResource}
    (haudio : variant.audio = some audio) :
    Resolves session (playlistUri (mediaPlaylistId audio.id)) variant audio := by
  obtain ⟨index, hget⟩ := mem_iff_getElem?.mp hmem
  have hids := h index variant hget
  have hplain : Plain (resourceStem index "audio" ++ ".m3u8") :=
    (plain_resourceStem index (by decide)).append (by decide)
  refine ⟨mediaPlaylistId audio.id, ?_, ?_⟩
  · unfold playlistUri
    rw [hids.audioPlaylistId haudio, escapeQuoted_eq_self hplain]
  · unfold servableMediaPlaylistResourceWithVariant
    rw [mediaPlaylistResourceFrom_audio h hget haudio]
    rfl

theorem filter_key_eq {α β : Type} [DecidableEq β] {key : α → β} {values : List α} {value : α}
    (hdist : values.Pairwise fun a b => key a ≠ key b) (hmem : value ∈ values) :
    values.filter (fun other => key other = key value) = [value] := by
  induction values with
  | nil => cases hmem
  | cons first rest ih =>
    have hfst := pairwise_cons.mp hdist
    rcases mem_cons.mp hmem with rfl | hr
    · have hnone : rest.filter (fun other => key other = key value) = [] := by
        rw [filter_eq_nil_iff]
        intro other ho
        simpa using (hfst.1 other ho).symm
      rw [filter_cons_of_pos (by simp), hnone]
    · rw [filter_cons_of_neg (by simpa using hfst.1 value hr)]
      exact ih hfst.2 hr

theorem zipIdx_pairwise (variants : List HlsVariant) :
    variants.zipIdx.Pairwise fun a b => a.2 < b.2 := by
  have hindices : (variants.zipIdx.map Prod.snd).Pairwise (· < ·) := by
    rw [zipIdx_map_snd]
    exact pairwise_lt_range'
  exact pairwise_map.mp hindices

theorem renditions_distinct (variants : List HlsVariant) :
    (variants.zipIdx.filterMap fun (variant, index) => audioRendition variant index).Pairwise
      fun a b => a.groupId ≠ b.groupId := by
  rw [pairwise_filterMap]
  apply (zipIdx_pairwise variants).imp
  rintro ⟨variant, i⟩ ⟨other, j⟩ hlt rendition hrendition otherRendition ho heq
  obtain ⟨_, _, rfl⟩ := map_eq_some_iff.mp hrendition
  obtain ⟨_, _, rfl⟩ := map_eq_some_iff.mp ho
  rw [escapeQuoted_eq_self (plain_audioGroupId i),
    escapeQuoted_eq_self (plain_audioGroupId j)] at heq
  have hs := audioGroupId_inj heq
  omega

structure Listed (session : HlsPlaybackSession) (playlist : MasterPlaylist) (index : Nat)
    (variant : HlsVariant) : Prop where
  stream : ∃ stream, playlist.streams[index]? = some stream ∧
    stream.bandwidth = variant.bandwidth ∧
    Resolves session stream.uri variant variant.video ∧
    (variant.audio = none → stream.audio = none) ∧
    ∀ audio, variant.audio = some audio → ∃ rendition,
      playlist.renditions.filter (fun other => other.groupId = rendition.groupId) = [rendition] ∧
        stream.audio = some rendition.groupId ∧ Resolves session rendition.uri variant audio

include h in
theorem listed_of_getElem? {index : Nat}
    (hget : (session.advertisedVariantsWithFilter isVariantAdvertisable)[index]? = some variant) :
    Listed session (session.masterPlaylistWithVariantFilter isVariantAdvertisable) index
      variant := by
  have hmem := mem_advertisedVariants (mem_of_getElem? hget)
  have hzip : (variant, index) ∈
      (session.advertisedVariantsWithFilter isVariantAdvertisable).zipIdx :=
    mem_zipIdx_iff_getElem?.mpr hget
  refine ⟨variantStream variant index, ?_, rfl, resolves_video h hmem, ?_, ?_⟩
  · unfold masterPlaylistWithVariantFilter
    rw [List.getElem?_map, List.getElem?_zipIdx, hget]
    simp
  · intro hnone
    unfold variantStream
    rw [hnone]
    rfl
  · intro audio haudio
    have hrendition : audioRendition variant index =
        some
          { groupId := escapeQuoted (audioGroupId index)
            name := escapeQuoted (if index = 0 then "Default" else "Variant " ++ toString index)
            uri := playlistUri (mediaPlaylistId audio.id) } := by
      unfold audioRendition HlsVariant.audioPlaylistId
      rw [haudio]
      rfl
    refine ⟨_, filter_key_eq (renditions_distinct _)
      (mem_filterMap.mpr ⟨(variant, index), hzip, hrendition⟩), ?_,
      resolves_audio h hmem haudio⟩
    unfold variantStream
    rw [haudio]
    rfl

include h in
theorem rendition_listed {rendition : AudioRendition}
    (hmem : rendition ∈ (session.masterPlaylistWithVariantFilter isVariantAdvertisable).renditions)
    :
    ∃ variant ∈ session.advertisedVariantsWithFilter isVariantAdvertisable, ∃ audio,
      variant.audio = some audio ∧ Resolves session rendition.uri variant audio := by
  obtain ⟨⟨variant, index⟩, hzip, hrendition⟩ := mem_filterMap.mp hmem
  have hin := mem_of_getElem? (mem_zipIdx_iff_getElem?.mp hzip)
  unfold audioRendition HlsVariant.audioPlaylistId at hrendition
  dsimp only at hrendition
  rw [Option.map_map] at hrendition
  obtain ⟨audio, haudio, rfl⟩ := map_eq_some_iff.mp hrendition
  exact ⟨variant, hin, audio, haudio, resolves_audio h (mem_advertisedVariants hin) haudio⟩

/-- The ranges follow each other from `start` to `stop`, none of them empty. -/
def Consecutive : Nat → List PlaylistSegment → Nat → Prop
  | start, [], stop => start = stop
  | start, segment :: rest, stop =>
    segment.offset = start ∧ 0 < segment.length ∧
      Consecutive (start + segment.length) rest stop

structure Serves (resource : HlsMediaResource) (initializationLength totalLength : Nat)
    (playlist : MediaPlaylist) : Prop where
  map : playlist.mapUri = resource.id ∧ playlist.mapLength = initializationLength ∧
    0 < initializationLength
  named : ∀ segment ∈ playlist.segments, segment.uri = resource.id
  ranges : playlist.segments ≠ [] ∧
    Consecutive initializationLength playlist.segments totalLength
  durations : ∀ segment ∈ playlist.segments,
    segment.durationMillis ≤ playlist.targetDuration * 1000

variable {segments : List HlsMediaSegment}

theorem segmentsValidFrom_consecutive {previousEnd totalLength : Nat} {uri : String}
    (h : segmentsValidFrom totalLength previousEnd segments = true) :
    Consecutive previousEnd (segments.map fun segment =>
      ⟨segment.durationMillis, segment.byteRangeLength, segment.byteRangeOffset, uri⟩)
      totalLength := by
  induction segments generalizing previousEnd with
  | nil =>
    have hend : previousEnd = totalLength := of_decide_eq_true h
    exact hend
  | cons segment rest ih =>
    unfold segmentsValidFrom at h
    split at h
    · cases h
    next hfit =>
      rw [not_or, not_or, not_not] at hfit
      split at h
      · cases h
      split at h
      · cases h
      · refine ⟨hfit.2.2, Nat.pos_of_ne_zero hfit.1, ?_⟩
        rw [← hfit.2.2]
        exact ih h

theorem le_targetDuration {segment : HlsMediaSegment} (h : segment ∈ segments) :
    segment.durationMillis ≤
      max (((segments.map fun segment => ceilSeconds segment.durationMillis).max?).getD 1) 1 *
        1000 := by
  have hin : ceilSeconds segment.durationMillis ∈
      segments.map fun segment => ceilSeconds segment.durationMillis :=
    List.mem_map_of_mem h
  have hceil : segment.durationMillis ≤ ceilSeconds segment.durationMillis * 1000 := by
    unfold ceilSeconds
    omega
  cases hmax : (segments.map fun segment => ceilSeconds segment.durationMillis).max? with
  | none =>
    rw [List.max?_eq_none_iff] at hmax
    rw [hmax] at hin
    cases hin
  | some longest =>
    have hle := (List.max?_eq_some_iff.mp hmax).2 _ hin
    rw [getD_some]
    have hmaximum : longest ≤ max longest 1 := Nat.le_max_left _ _
    have hscaled : ceilSeconds segment.durationMillis * 1000 ≤ max longest 1 * 1000 :=
      Nat.mul_le_mul_right _ (hle.trans hmaximum)
    exact hceil.trans hscaled

variable {initializationLength totalLength : Nat} {playlist : MediaPlaylist}

theorem mediaPlaylistForResource_serves {resource : HlsMediaResource}
    (h : mediaPlaylistForResource variant resource initializationLength totalLength segments =
      some playlist) : Serves resource initializationLength totalLength playlist := by
  unfold mediaPlaylistForResource at h
  split at h
  · cases h
  next hshort =>
    split at h
    · cases h
    next hs =>
      have hpos : 0 < initializationLength := by omega
      split at h
      · next hv =>
          cases h
          refine ⟨⟨rfl, rfl, hpos⟩, ?_, ⟨?_, ?_⟩, ?_⟩
          · intro segment hmem
            obtain ⟨_, _, rfl⟩ := List.mem_map.mp hmem
            rfl
          · intro hnone
            have he := map_eq_nil_iff.mp hnone
            rw [he] at hv
            exact absurd hv.1 (by decide)
          · exact segmentsValidFrom_consecutive hv.2
          · intro segment hmem
            obtain ⟨source, hsrc, rfl⟩ := List.mem_map.mp hmem
            exact le_targetDuration hsrc
      · cases h
        refine ⟨⟨rfl, rfl, hpos⟩, ?_, ⟨cons_ne_nil _ _, rfl, ?_, ?_⟩, ?_⟩
        · intro segment hmem
          rw [mem_singleton.mp hmem]
        · dsimp only
          omega
        · show initializationLength + (totalLength - initializationLength) = totalLength
          omega
        · intro segment hmem
          rw [mem_singleton.mp hmem]

include h in
theorem servableMediaPlaylist_serves {playlistId : String}
    (hproduced : session.servableMediaPlaylist playlistId initializationLength totalLength
      segments = some playlist) :
    ∃ variantId resource,
      session.servableMediaPlaylistResourceWithVariant playlistId = some (variantId, resource) ∧
        session.servableMediaResourceWithVariant resource.id = some (variantId, resource) ∧
        Serves resource initializationLength totalLength playlist := by
  unfold servableMediaPlaylist at hproduced
  cases hfound : mediaPlaylistResourceFrom session.advertisedVariants playlistId with
  | none =>
    rw [hfound] at hproduced
    cases hproduced
  | some found =>
    rw [hfound] at hproduced
    obtain ⟨variant, resource⟩ := found
    obtain ⟨hmem, hrsc⟩ := mediaPlaylistResourceFrom_mem hfound
    obtain ⟨index, hget⟩ := mem_iff_getElem?.mp hmem
    refine ⟨variant.id, resource, ?_, ?_, mediaPlaylistForResource_serves hproduced⟩
    · unfold servableMediaPlaylistResourceWithVariant
      rw [hfound]
      rfl
    · unfold servableMediaResourceWithVariant
      rcases hrsc with rfl | haudio
      · rw [mediaResourceFrom_video h hget]
        rfl
      · rw [mediaResourceFrom_audio h hget haudio]
        rfl

/-- The playlists of a playback session are closed under lookup, for every filter of its
variants and every shape of its media. -/
theorem playlists_closed [FrameRates] (h : PlaybackSession session) :
    (∀ isVariantAdvertisable : HlsVariant → Bool,
      let variants := session.advertisedVariantsWithFilter isVariantAdvertisable
      let playlist := session.masterPlaylistWithVariantFilter isVariantAdvertisable
      variants ≠ [] ∧ playlist.streams.length = variants.length ∧
        (variants = session.advertisedVariants.filter isVariantAdvertisable ∨
          (∀ variant ∈ session.advertisedVariants, isVariantAdvertisable variant = false) ∧
            ∃ lowest ∈ session.advertisedVariants, variants = [lowest] ∧
              ∀ other ∈ session.advertisedVariants, lowest.bandwidth ≤ other.bandwidth) ∧
        (∀ index variant, variants[index]? = some variant →
          Listed session playlist index variant) ∧
        ∀ rendition ∈ playlist.renditions, ∃ variant ∈ variants, ∃ audio,
          variant.audio = some audio ∧ Resolves session rendition.uri variant audio) ∧
    ∀ playlistId initializationLength totalLength segments playlist,
      session.servableMediaPlaylist playlistId initializationLength totalLength segments =
        some playlist →
      ∃ variantId resource,
        session.servableMediaPlaylistResourceWithVariant playlistId =
          some (variantId, resource) ∧
        session.servableMediaResourceWithVariant resource.id = some (variantId, resource) ∧
        Serves resource initializationLength totalLength playlist := by
  have hnumbered := h.advertised_numbered
  refine ⟨fun isVariantAdvertisable => ⟨?_, ?_, ?_, ?_, ?_⟩, ?_⟩
  · rcases @advertisedVariantsWithFilter_cases session isVariantAdvertisable with
      ⟨hsome, heq⟩ | ⟨_, lowest, _, heq, _⟩
    · exact heq ▸ hsome
    · rw [heq]
      exact cons_ne_nil _ _
  · unfold masterPlaylistWithVariantFilter
    rw [length_map, length_zipIdx]
  · rcases @advertisedVariantsWithFilter_cases session isVariantAdvertisable with
      ⟨_, heq⟩ | ⟨hnone, hlowest⟩
    · exact .inl heq
    · refine .inr ⟨fun variant hmem => ?_, hlowest⟩
      exact Bool.eq_false_iff.mpr (filter_eq_nil_iff.mp hnone variant hmem)
  · intro index variant hget
    exact listed_of_getElem? hnumbered hget
  · intro rendition hmem
    exact rendition_listed hnumbered hmem
  · intro playlistId initializationLength totalLength segments playlist hproduced
    exact servableMediaPlaylist_serves hnumbered hproduced

end

section Single

local instance unparsedRates : FrameRates := ⟨fun _ => false⟩

def offeredVariant : BilibiliPlaybackVariant where
  id := "1080p"
  kind := .dash
  contentId := "7"
  bandwidth := some 2000000
  codecs := []
  mimeTypes := []
  width := some 1920
  height := some 1080
  frameRate := none
  durationSeconds := some 60
  abr := none
  video := some (sampleRequest .video "https://cdn/a")
  audio := some (sampleRequest .audio "https://cdn/b")
  flvSegments := []

/-- The playlist of a session of one variant that its filter refuses still lists it. -/
theorem playlists_closed_single :
    ∃ session, fromPlaybackEntryWithPolicy "session" "Title" offeredVariant
        ⟨[]⟩ [offeredVariant] .default = .ok session ∧
      session.advertisedVariantsWithFilter (fun _ => false) ≠ [] := by
  have hok : (fromPlaybackEntryWithPolicy "session" "Title" offeredVariant
      ⟨[]⟩ [offeredVariant] .default).toOption.isSome = true := by
    decide +kernel
  cases hbuilt : fromPlaybackEntryWithPolicy "session" "Title" offeredVariant
      ⟨[]⟩ [offeredVariant] .default with
  | error error =>
    rw [hbuilt] at hok
    cases hok
  | ok session => exact ⟨session, rfl, ((playlists_closed (.built hbuilt)).1 fun _ => false).1⟩

end Single

end NetPlayer.Hls
