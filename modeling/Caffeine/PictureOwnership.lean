/-
# Who frees the picture

`InitEncode` has x264 allocate a picture, and `Encode` points the picture to the planes of a
frame.  `Release` does not clean the picture at all, and the error path of `Encode` cleans
it while it points to the frame.  Only where `x264_encoder_open` fails the picture that has
been allocated is cleaned.
-/
import Caffeine.EncodedBuffer

namespace Caff

/-! ## The condition -/

/-- The call gets to `x264_encoder_encode`, and it fails. -/
def EncodeFails (s : Encoder) (a : EncoderAction) : Prop :=
  ∃ frame frameTypes forceKeyFrame, a = .encode frame frameTypes none ∧
    frameRequest frameTypes = .encode forceKeyFrame ∧ s.encoder.isSome = true ∧
    s.encodedImageCallback = true

/-- The call releases, itself or in `InitEncode`. -/
def EncoderAction.Releases (a : EncoderAction) : Prop :=
  a = .release ∨ ∃ settings n o, a = .initEncode (some settings) n o ∧
    Encoder.acceptsSettings settings = true

/-- No frame fails to be encoded, and no open encoder is released. -/
def PictureKept (s : Encoder) (a : EncoderAction) : Prop :=
  ¬ EncodeFails s a ∧ ¬ (a.Releases ∧ s.encoder.isSome = true)

/-! ## The events of a picture -/

/-- Only blocks that x264 has allocated are cleaned. -/
def CleansBlocks (es : List EncoderEvent) : Prop :=
  ∀ plane, .pictureClean plane ∈ es → ∃ picture, plane = .block picture

/-- Between its allocation and the next `Release` a block is cleaned exactly once. -/
def CleanedOnce (es : List EncoderEvent) : Prop :=
  ∀ l₁ picture l₂ l₃, es = l₁ ++ .pictureAlloc picture :: l₂ ++ .released :: l₃ →
    .released ∉ l₂ → l₂.count (.pictureClean (.block picture)) = 1

/-- The block allocated last has been cleaned exactly once, if there has been no
`Release` since. -/
def Settled (es : List EncoderEvent) : Prop :=
  ∀ l₁ picture l₂, es = l₁ ++ .pictureAlloc picture :: l₂ → .released ∉ l₂ →
    l₂.count (.pictureClean (.block picture)) = 1

section

variable {es out : List EncoderEvent}

/-- Where an element of two lists in a row stands. -/
theorem exists_of_append_eq_cons {α : Type*} {l l' l₁ l₂ : List α} {x : α}
    (h : l ++ l' = l₁ ++ x :: l₂) :
    (∃ m, l = l₁ ++ x :: m ∧ l₂ = m ++ l') ∨ ∃ m, l' = m ++ x :: l₂ ∧ l₁ = l ++ m := by
  rcases List.append_eq_append_iff.mp h with ⟨m, hm, hl'⟩ | ⟨m, hm, hx⟩
  · right
    exact ⟨m, hl', hm⟩
  · rcases m with _ | ⟨y, m⟩
    · right
      refine ⟨[], hx.symm, ?_⟩
      rw [hm, List.append_nil, List.append_nil]
    · left
      rw [List.cons_append, List.cons.injEq] at hx
      obtain ⟨rfl, hx⟩ := hx
      exact ⟨m, hm, hx⟩

/-- What holds of all events holds of the earlier ones. -/
theorem CleansBlocks.of_append (h : CleansBlocks (es ++ out)) : CleansBlocks es := by
  intro plane hmem
  exact h plane (List.mem_append_left _ hmem)

theorem CleanedOnce.of_append (h : CleanedOnce (es ++ out)) : CleanedOnce es := by
  intro l₁ picture l₂ l₃ hes hnot
  apply h l₁ picture l₂ (l₃ ++ out) _ hnot
  rw [hes, List.append_assoc, List.append_assoc, List.append_assoc]
  rfl

/-- Events in which nothing happens to the picture. -/
def Quiet (l : List EncoderEvent) : Prop := ∀ e ∈ l, e.ofPicture = false

theorem Quiet.not_mem {l : List EncoderEvent} (h : Quiet l) {e : EncoderEvent}
    (he : e.ofPicture = true) : e ∉ l := by
  intro hmem
  rw [h e hmem] at he
  cases he

theorem CleansBlocks.append_quiet (h : CleansBlocks es) (hout : Quiet out) :
    CleansBlocks (es ++ out) := by
  intro plane hmem
  rcases List.mem_append.mp hmem with hmem | hmem
  · exact h plane hmem
  · exact absurd hmem (hout.not_mem rfl)

theorem Settled.append_quiet (h : Settled es) (hout : Quiet out) : Settled (es ++ out) := by
  intro l₁ picture l₂ heq hnot
  rcases exists_of_append_eq_cons heq with ⟨m, hes, rfl⟩ | ⟨m, hout', -⟩
  · have hclean : .pictureClean (.block picture) ∉ out := hout.not_mem rfl
    rw [List.count_append, List.count_eq_zero.mpr hclean]
    apply h l₁ picture m hes
    intro hmem
    exact hnot (List.mem_append_left _ hmem)
  · exact absurd (by rw [hout']; simp) (hout.not_mem (e := .pictureAlloc picture) rfl)

theorem CleanedOnce.append_quiet (h : CleanedOnce es) (hout : Quiet out) :
    CleanedOnce (es ++ out) := by
  intro l₁ picture l₂ l₃ heq hnot
  rcases exists_of_append_eq_cons heq with ⟨m, hes, -⟩ | ⟨m, hout', -⟩
  · exact h l₁ picture l₂ m hes hnot
  · exact absurd (by rw [hout']; simp) (hout.not_mem (e := .released) rfl)

theorem settled_nil : Settled [] := by
  intro l₁ picture l₂ heq
  simp at heq

/-- A `Release` settles what was before it. -/
theorem Settled.append_released (h : Settled out) : Settled (es ++ .released :: out) := by
  intro l₁ picture l₂ heq hnot
  rcases exists_of_append_eq_cons heq with ⟨m, -, rfl⟩ | ⟨m, hout, -⟩
  · exact absurd (by simp) hnot
  · rcases m with _ | ⟨e, m⟩
    · cases hout
    · rw [List.cons_append, List.cons.injEq] at hout
      exact h m picture l₂ hout.2 hnot

/-- A block that is cleaned at once. -/
theorem settled_alloc_clean (picture : ℕ) :
    Settled [.pictureAlloc picture, .pictureClean (.block picture), .returned .error] := by
  intro l₁ picture' l₂ heq _
  rcases l₁ with _ | ⟨e, l₁⟩
  · simp only [List.nil_append, List.cons.injEq, EncoderEvent.pictureAlloc.injEq] at heq
    obtain ⟨rfl, rfl⟩ := heq
    simp
  · -- there is no other block
    rw [List.cons_append, List.cons.injEq] at heq
    have hmem : EncoderEvent.pictureAlloc picture' ∈
        [EncoderEvent.pictureClean (.block picture), .returned .error] := by
      rw [heq.2]
      simp
    simp at hmem

/-- A `Release` where the last block has been cleaned. -/
theorem CleanedOnce.append_released (h : CleanedOnce es) (hsettled : Settled es)
    (hout : .released ∉ out) : CleanedOnce (es ++ .released :: out) := by
  intro l₁ picture l₂ l₃ heq hnot
  rcases exists_of_append_eq_cons heq with ⟨m, hes, -⟩ | ⟨m, hout', hl⟩
  · exact h l₁ picture l₂ m hes hnot
  · rcases m with _ | ⟨e, m⟩
    · rw [List.append_nil] at hl
      exact hsettled l₁ picture l₂ hl.symm hnot
    · rw [List.cons_append, List.cons.injEq] at hout'
      exact absurd (by rw [hout'.2]; simp) hout

end

/-! ## What a call is for the picture -/

/-- The ways a call can go, as far as the picture is concerned. -/
inductive PictureMoves (s : Encoder) (a : EncoderAction) (s' : Encoder) (out : List EncoderEvent) :
    Prop
  | quiet (hopen : s'.encoder.isSome = s.encoder.isSome) (hout : Quiet out)
  | failed (hfails : EncodeFails s a) (hclosed : s'.encoder.isSome = false)
  | released (ha : a.Releases) (hclosed : s'.encoder.isSome = false) (rest : List EncoderEvent)
      (hout : out = .released :: rest) (hrest : Quiet rest)
  | openFailed (ha : a.Releases) (hclosed : s'.encoder.isSome = false)
      (hout : out = [.released, .pictureAlloc s.pictures, .pictureClean (.block s.pictures),
        .returned .error])
  | opened (ha : a.Releases) (hopen : s'.encoder.isSome = true)
      (hout : out = [.released, .pictureAlloc s.pictures, .returned .ok])

section

variable {webrtc : WebrtcVideo} {s s' : Encoder} {a : EncoderAction}
  {es out : List EncoderEvent}

theorem quiet_singleton {status : CodecStatus} : Quiet [.returned status] := by
  intro e he
  rw [List.mem_singleton.mp he]
  rfl

theorem EncoderMoves.pictureMoves (hmoves : EncoderMoves webrtc s a s' out) :
    PictureMoves s a s' out := by
  have hreleases : ∀ settings n o, Encoder.acceptsSettings settings = true →
      (EncoderAction.initEncode (some settings) n o).Releases := by
    intro settings n o hok
    right
    exact ⟨settings, n, o, rfl, hok⟩
  cases hmoves with
  | refused a status => exact .quiet rfl quiet_singleton
  | registered callback => exact .quiet rfl quiet_singleton
  | ratesStored allocation framerate reconfigured => exact .quiet rfl quiet_singleton
  | switched allocation framerate params fps hopen hfps =>
      apply PictureMoves.quiet
      · rw [hopen]
        rfl
      · simp [Quiet, EncoderEvent.ofPicture]
  | switchFailed allocation framerate params fps hrates hopen hframe hfps =>
      exact .quiet rfl (by simp [Quiet, EncoderEvent.ofPicture])
  | skipped frame frameTypes nals hopen hout =>
      apply PictureMoves.quiet
      · rfl
      · intro e he
        rcases hout e he with rfl | rfl | rfl <;> rfl
  | fragmented frame frameTypes nals n hopen hwrote hout => exact .quiet rfl hout
  | encodeFailed frame frameTypes forceKeyFrame hopen hcallback htypes hout =>
      exact .failed ⟨frame, frameTypes, forceKeyFrame, rfl, htypes, hopen, hcallback⟩ rfl
  | released => exact .released (.inl rfl) rfl _ rfl quiet_singleton
  | initFailed settings n o hok =>
      exact .released (hreleases settings n o hok) rfl _ rfl quiet_singleton
  | openFailed settings n hok => exact .openFailed (hreleases settings n _ hok) rfl rfl
  | opened settings n hok => exact .opened (hreleases settings n _ hok) rfl rfl

/-- A frame that fails to be encoded has its plane cleaned. -/
theorem clean_of_encodeFails (h : EncodeFails s a)
    (hs : (encoderMachine webrtc).step s a = some (s', out)) :
    .pictureClean .borrowed ∈ out := by
  obtain ⟨frame, frameTypes, forceKeyFrame, rfl, htypes, hopen, hcallback⟩ := h
  have hrun : some (s.encode webrtc frame frameTypes none) = some (s', out) := hs
  have hnot : ¬ (s.encoder.isNone ∨ s.encodedImageCallback = false) := by
    simp [← Option.not_isSome, hopen, hcallback]
  rw [Encoder.encode, if_neg hnot, htypes, Option.some.injEq, Prod.mk.injEq] at hrun
  rw [← hrun.2]
  simp [Encoder.encodeFrame, Encoder.pictureClean]

/-- A call that releases shows it first. -/
theorem released_of_releases (h : a.Releases)
    (hs : (encoderMachine webrtc).step s a = some (s', out)) :
    ∃ rest, out = .released :: rest := by
  rcases h with rfl | ⟨settings, n, o, rfl, hok⟩
  · have hrun : some (s.release, [EncoderEvent.released, .returned .ok]) = some (s', out) := hs
    rw [Option.some.injEq, Prod.mk.injEq] at hrun
    exact ⟨_, hrun.2.symm⟩
  · have hrun : (if Encoder.acceptsSettings settings then
        some (s.initEncode webrtc settings n o)
        else some (s, [.returned .errParameter])) = some (s', out) := hs
    rw [if_pos hok, Option.some.injEq] at hrun
    cases o <;> exact ⟨_, (congrArg Prod.snd hrun).symm⟩

/-! ## The two directions -/

/-- The picture of an open encoder has not been cleaned since it was allocated. -/
def OpenPicture (es : List EncoderEvent) (s : Encoder) : Prop :=
  s.encoder.isSome = true → ∃ l₁ picture l₂, es = l₁ ++ .pictureAlloc picture :: l₂ ∧ Quiet l₂

theorem PictureMoves.openPicture (h : OpenPicture es s) (hmoves : PictureMoves s a s' out) :
    OpenPicture (es ++ out) s' := by
  intro hopen
  cases hmoves with
  | quiet hsame hout =>
      rw [hsame] at hopen
      obtain ⟨l₁, picture, l₂, rfl, hquiet⟩ := h hopen
      refine ⟨l₁, picture, l₂ ++ out, by rw [List.append_assoc, List.cons_append], ?_⟩
      intro e he
      rcases List.mem_append.mp he with he | he
      · exact hquiet e he
      · exact hout e he
  | failed hfails hclosed =>
      rw [hclosed] at hopen
      cases hopen
  | released ha hclosed rest hout hrest =>
      rw [hclosed] at hopen
      cases hopen
  | openFailed ha hclosed hout =>
      rw [hclosed] at hopen
      cases hopen
  | opened ha hopen' hout =>
      refine ⟨es ++ [.released], s.pictures, [.returned .ok], ?_, quiet_singleton⟩
      rw [hout, List.append_assoc]
      rfl

/-- What every call keeps that meets the condition. -/
structure Disposed (es : List EncoderEvent) (s : Encoder) : Prop where
  cleans : CleansBlocks es
  once : CleanedOnce es
  settled : s.encoder.isSome = false → Settled es

/-- **Step lemma.** -/
theorem PictureMoves.disposed (h : Disposed es s) (hkept : PictureKept s a)
    (hmoves : PictureMoves s a s' out) : Disposed (es ++ out) s' := by
  have hsettled : a.Releases → Settled es := by
    intro ha
    apply h.settled
    rw [← Bool.not_eq_true]
    intro hopen
    exact hkept.2 ⟨ha, hopen⟩
  cases hmoves with
  | quiet hsame hout =>
      constructor
      · exact h.cleans.append_quiet hout
      · exact h.once.append_quiet hout
      · intro hclosed
        rw [hsame] at hclosed
        exact (h.settled hclosed).append_quiet hout
  | failed hfails hclosed => exact absurd hfails hkept.1
  | released ha hclosed rest hout hrest =>
      rw [hout]
      constructor
      · intro plane hmem
        have hnot : .pictureClean plane ∉ rest := hrest.not_mem rfl
        apply h.cleans plane
        simpa [hnot] using hmem
      · exact h.once.append_released (hsettled ha) (hrest.not_mem rfl)
      · intro _
        exact Settled.append_released (settled_nil.append_quiet hrest)
  | openFailed ha hclosed hout =>
      rw [hout]
      constructor
      · intro plane hmem
        simp only [List.mem_append, List.mem_cons, reduceCtorEq, List.not_mem_nil, false_or,
          or_false, EncoderEvent.pictureClean.injEq] at hmem
        rcases hmem with hmem | hmem
        · exact h.cleans plane hmem
        · exact ⟨s.pictures, hmem⟩
      · exact h.once.append_released (hsettled ha) (by simp)
      · intro _
        exact Settled.append_released (settled_alloc_clean s.pictures)
  | opened ha hopen hout =>
      rw [hout]
      constructor
      · intro plane hmem
        apply h.cleans plane
        simpa using hmem
      · exact h.once.append_released (hsettled ha) (by simp)
      · intro hclosed
        rw [hopen] at hclosed
        cases hclosed

/-- A call that does not meet the condition breaks one of the two. -/
theorem not_of_not_pictureKept (hpicture : OpenPicture es s) (hkept : ¬ PictureKept s a)
    (hs : (encoderMachine webrtc).step s a = some (s', out))
    (hcleans : CleansBlocks (es ++ out)) (honce : CleanedOnce (es ++ out)) : False := by
  apply hkept
  constructor
  · intro hfails
    obtain ⟨picture, h⟩ :=
      hcleans .borrowed (List.mem_append_right _ (clean_of_encodeFails hfails hs))
    cases h
  · rintro ⟨ha, hopen⟩
    obtain ⟨rest, rfl⟩ := released_of_releases ha hs
    obtain ⟨l₁, picture, l₂, rfl, hquiet⟩ := hpicture hopen
    have hone := honce l₁ picture l₂ rest rfl (hquiet.not_mem rfl)
    rw [List.count_eq_zero.mpr (hquiet.not_mem rfl)] at hone
    cases hone

end

/-! ## Every run -/

section

variable {webrtc : WebrtcVideo} {mode : PacketizationMode}
  {tr : List (Encoder × EncoderAction)} {es : List EncoderEvent} {s : Encoder}

theorem EncoderRuns.openPicture (h : EncoderRuns webrtc mode tr es s) :
    OpenPicture es s := by
  refine Machine.Run.induction_on_trace (I := fun _ es s => OpenPicture es s) ?_ ?_ h
  · intro hopen
    cases hopen
  · intro _ es s a s' out ih hs
    exact (encoderMoves_of_step hs).pictureMoves.openPicture ih

/-- **Run lemma.** -/
theorem EncoderRuns.disposed (h : EncoderRuns webrtc mode tr es s)
    (hkept : Machine.Meets PictureKept tr) : Disposed es s := by
  refine Machine.Run.induction_on_steps (I := Disposed) ?_ ?_ h hkept
  · constructor
    · intro plane hmem
      cases hmem
    · intro l₁ picture l₂ l₃ heq
      simp at heq
    · intro _
      exact settled_nil
  · intro es s a s' out ih hstep hs
    exact (encoderMoves_of_step hs).pictureMoves.disposed ih hstep

/-- **The picture of x264.**  In a run `x264_picture_clean` is only applied to blocks that
`x264_picture_alloc` has allocated, and each of these exactly once up to the next `Release`,
exactly if no frame fails to be encoded and no open encoder is released. -/
theorem cleanedOnce_iff (h : EncoderRuns webrtc mode tr es s) :
    CleansBlocks es ∧ CleanedOnce es ↔ Machine.Meets PictureKept tr := by
  constructor
  · rintro ⟨hcleans, honce⟩
    induction h with
    | refl => exact Machine.meets_nil _
    | @snoc t t' tr es out a hrun hs ih =>
        rw [Machine.meets_snoc]
        constructor
        · exact ih hcleans.of_append honce.of_append
        · by_contra hkept
          exact not_of_not_pictureKept (EncoderRuns.openPicture hrun) hkept hs hcleans honce
  · intro hkept
    obtain ⟨hcleans, honce, -⟩ := h.disposed hkept
    exact ⟨hcleans, honce⟩

end

/-! ## Encoders that are released -/

/-- An encoder that does not open, and is released. -/
theorem cleanedOnce_iff_openFails :
    ∃ tr es s, EncoderRuns i420Webrtc .singleNalUnit tr es s ∧
      tr.map Prod.snd =
        [.initEncode (some fullHd) 1200 .encoderOpenFails, .release] ∧
      .pictureAlloc 0 ∈ es ∧
      (CleansBlocks es ∧ CleanedOnce es ↔ Machine.Meets PictureKept tr) := by
  obtain ⟨tr, es, s, hrun, htr, halloc⟩ :=
    exists_encoderRuns_of_exec i420Webrtc
      (l := [.initEncode (some fullHd) 1200 .encoderOpenFails, .release])
      (P := fun _ es => .pictureAlloc 0 ∈ es) ⟨_, _, rfl, by decide⟩
  exact ⟨tr, es, s, hrun, htr, halloc, cleanedOnce_iff hrun⟩

/-- An open encoder that is released without its picture being cleaned, and one that
cleans the plane of a frame when x264 fails. -/
theorem not_cleanedOnce :
    (∃ tr es s, EncoderRuns i420Webrtc .singleNalUnit tr es s ∧
      tr.map Prod.snd = openActions ++ [.release] ∧ ¬ CleanedOnce es) ∧
    ∃ tr es s, EncoderRuns i420Webrtc .singleNalUnit tr es s ∧
      tr.map Prod.snd = openActions ++ [.encode ⟨1920, 1080⟩ none none] ∧ ¬ CleansBlocks es := by
  constructor
  · obtain ⟨tr, es, s, hrun, htr, hes⟩ :=
      exists_encoderRuns_of_exec i420Webrtc (l := openActions ++ [.release])
        (P := fun _ es => es = [.returned .ok, .released] ++ .pictureAlloc 0 :: [.returned .ok] ++
          .released :: [.returned .ok]) ⟨_, _, rfl, rfl⟩
    refine ⟨tr, es, s, hrun, htr, ?_⟩
    intro honce
    have hone := honce _ _ _ _ hes (by decide)
    cases hone
  · obtain ⟨tr, es, s, hrun, htr, hmem⟩ :=
      exists_encoderRuns_of_exec i420Webrtc
        (l := openActions ++ [.encode ⟨1920, 1080⟩ none none])
        (P := fun _ es => .pictureClean .borrowed ∈ es) ⟨_, _, rfl, by decide⟩
    refine ⟨tr, es, s, hrun, htr, ?_⟩
    intro hcleans
    obtain ⟨picture, h⟩ := hcleans _ hmem
    cases h

end Caff
