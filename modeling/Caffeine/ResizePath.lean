/-
# The resize path of the encoder

For a frame of another height than the last one `Encode` is to fit the rate factor to the
new height.  It passes a null pointer to `x264_encoder_parameters`, where `SetRateAllocation`
passes the address of its parameters, and tests the same pointer behind the call, so that
nothing is set: `not_resizeAgrees`.  The branch behind the test has the quality policy of
`InitEncode` once more and leaves out its second threshold (`resizeFactor_eq_iff`).  So the
rate factor of an encoder is always the one it was opened with: `rateFactor_of_opened`.
-/
import Caffeine.EncodedBuffer

namespace Caff

/-! ## The quality policy, twice -/

namespace Encoder

/-- The rate factor `InitEncode` chooses. -/
def rateFactor (height : ℤ) (targetKbps : ℕ) : ℚ :=
  if height ≥ maxFrameHeightHighQualityCrf ∨ targetKbps < minBitrateKbpsHighQualityCrf
  then normalQualityCrf else highQualityCrf

/-- The rate factor the resize path would set. -/
def resizeFactor (height : ℤ) : ℚ :=
  if height < maxFrameHeightHighQualityCrf then highQualityCrf else normalQualityCrf

theorem initParams_fRfConstant (s : Encoder) :
    s.initParams.fRfConstant = rateFactor s.height s.targetKbps := rfl

theorem highQualityCrf_ne : highQualityCrf ≠ normalQualityCrf := by
  unfold highQualityCrf normalQualityCrf
  decide +kernel

/-- High quality is for less than 720 lines at 1000 kbps or more. -/
theorem rateFactor_eq_high_iff (height : ℤ) (targetKbps : ℕ) :
    rateFactor height targetKbps = highQualityCrf ↔ height < 720 ∧ 1000 ≤ targetKbps := by
  unfold rateFactor maxFrameHeightHighQualityCrf minBitrateKbpsHighQualityCrf
  split_ifs with h
  · constructor
    · intro heq
      exact absurd heq.symm highQualityCrf_ne
    · rintro ⟨hheight, hkbps⟩
      omega
  · constructor
    · intro _
      omega
    · intro _
      rfl

/-- The two policies agree but for a small picture at a low bitrate. -/
theorem resizeFactor_eq_iff (height : ℤ) (targetKbps : ℕ) :
    resizeFactor height = rateFactor height targetKbps ↔ 720 ≤ height ∨ 1000 ≤ targetKbps := by
  unfold resizeFactor
  by_cases hheight : height < maxFrameHeightHighQualityCrf
  · rw [if_pos hheight, eq_comm, rateFactor_eq_high_iff]
    unfold maxFrameHeightHighQualityCrf at hheight
    omega
  · rw [if_neg hheight, rateFactor, if_pos (.inl (Int.not_lt.mp hheight))]
    unfold maxFrameHeightHighQualityCrf at hheight
    constructor
    · intro _
      omega
    · intro _
      rfl

/-! ## The path -/

/-- The resize path, with what it passes to `x264_encoder_parameters`, a destination or a
null pointer, and whether x264 reconfigures. -/
def resize (s : Encoder) (frame : VideoFrame) (destination reconfigured : Bool) :
    Encoder × List EncoderEvent :=
  let s : Encoder := { s with
    encoder :=
      if destination && reconfigured then
        s.encoder.map fun params => { params with fRfConstant := resizeFactor frame.height }
      else s.encoder }
  ({ s with height := frame.height }, [.parameters destination])

variable (webrtc : WebrtcVideo)

/-- `Encode` behind the resize path. -/
def encodeSized (s : Encoder) (frame : VideoFrame) (frameTypes : Option (List FrameType))
    (nals : Option NalList) : Encoder × List EncoderEvent :=
  match frameRequest frameTypes with
  | .encode forceKeyFrame => s.encodeFrame webrtc frame forceKeyFrame nals
  | .skip => (s, [.returned .ok])
  | .invalid => (s, [.thrown])

/-- **`Encode` takes the resize path with a null pointer.** -/
theorem encode_eq_resize {s : Encoder} {frame : VideoFrame} (hopen : s.encoder.isSome = true)
    (hcallback : s.encodedImageCallback = true) (hframe : frame.height ≠ s.height)
    (frameTypes : Option (List FrameType)) (nals : Option NalList) (reconfigured : Bool) :
    s.encode webrtc frame frameTypes nals =
      let (resized, out) := s.resize frame false reconfigured
      ((resized.encodeSized webrtc frame frameTypes nals).1,
        out ++ (resized.encodeSized webrtc frame frameTypes nals).2) := by
  have hready : ¬ (s.encoder.isNone ∨ s.encodedImageCallback = false) := by
    rw [Option.isNone_eq_false_iff.mpr hopen, hcallback]
    simp
  unfold encode resize encodeSized
  rw [if_neg hready, if_pos hframe]
  simp only [Bool.false_and, Bool.false_eq_true, if_false]
  cases frameRequest frameTypes <;> rfl

/-- With a destination the path would set the rate factor `InitEncode` chooses, but for a
small picture at a low bitrate. -/
theorem resize_fRfConstant_iff {s : Encoder} {frame : VideoFrame} {params : EncoderParams}
    (hparams : (s.resize frame true true).1.encoder = some params) :
    params.fRfConstant = rateFactor frame.height s.targetKbps ↔
      720 ≤ frame.height ∨ 1000 ≤ s.targetKbps := by
  obtain ⟨old, -, rfl⟩ := Option.map_eq_some_iff.mp hparams
  exact resizeFactor_eq_iff frame.height s.targetKbps

end Encoder

/-! ## The rate factor in every run -/

/-- The settings the call opens an encoder with. -/
def openedBy : EncoderAction → Option CodecSettings
  | .initEncode (some settings) _ .encoderOpens =>
      if Encoder.acceptsSettings settings then some settings else none
  | _ => none

/-- The settings an encoder was opened with last. -/
def lastOpened (tr : List (Encoder × EncoderAction)) : Option CodecSettings :=
  (tr.filterMap fun p => openedBy p.2).getLast?

section

variable {webrtc : WebrtcVideo} {mode : PacketizationMode}
  {tr : List (Encoder × EncoderAction)} {es out : List EncoderEvent} {s s' : Encoder}
  {a : EncoderAction} {settings : CodecSettings} {params : EncoderParams}

theorem lastOpened_snoc_of_some (h : openedBy a = some settings) :
    lastOpened (tr ++ [(s, a)]) = some settings := by
  simp [lastOpened, h]

theorem lastOpened_snoc_of_none (h : openedBy a = none) :
    lastOpened (tr ++ [(s, a)]) = lastOpened tr := by
  simp [lastOpened, h]

/-- An encoder is opened with the rate factor of its settings, -/
theorem rateFactor_of_openedBy (ho : openedBy a = some settings)
    (hstep : (encoderMachine webrtc).step s a = some (s', out))
    (hparams : s'.encoder = some params) :
    params.fRfConstant = Encoder.rateFactor settings.height settings.maxBitrate := by
  unfold openedBy at ho
  split at ho
  · rename_i settings' n
    split at ho
    · rename_i hok
      obtain rfl := Option.some.inj ho
      have hs' : s' = (s.initEncode webrtc settings' n .encoderOpens).1 := by
        have hstep' : (if Encoder.acceptsSettings settings' then
            some (s.initEncode webrtc settings' n .encoderOpens)
            else some (s, [.returned .errParameter])) = some (s', out) := hstep
        rw [if_pos hok] at hstep'
        exact congrArg Prod.fst (Option.some.inj hstep').symm
      rw [hs'] at hparams
      rw [← Option.some.inj hparams]
      exact (s.prepare settings' n).initParams_fRfConstant
    · cases ho
  · cases ho

/-- and keeps it: neither `Encode` nor `SetRateAllocation` moves it. -/
theorem EncoderMoves.fRfConstant_eq (h : EncoderMoves webrtc s a s' out)
    (ho : openedBy a = none) (hparams : s'.encoder = some params) :
    ∃ old, s.encoder = some old ∧ params.fRfConstant = old.fRfConstant := by
  cases h with
  | opened settings n hok => simp [openedBy, hok] at ho
  | switched allocation framerate old fps hopen hfps =>
      refine ⟨old, hopen, ?_⟩
      rw [← Option.some.inj hparams]
  | released => cases hparams
  | initFailed settings n o hok => cases hparams
  | openFailed settings n hok => cases hparams
  | encodeFailed frame frameTypes forceKeyFrame hopen hcallback htypes hout => cases hparams
  | _ => exact ⟨params, hparams, rfl⟩

/-- **The rate factor of an encoder.**  In every state a new encoder can get to, an open
encoder has the rate factor of the height and the bitrate it was opened with last, whatever
frames and rates have come since. -/
theorem rateFactor_of_opened (h : EncoderRuns webrtc mode tr es s) :
    ∀ params, s.encoder = some params → ∃ settings, lastOpened tr = some settings ∧
      params.fRfConstant = Encoder.rateFactor settings.height settings.maxBitrate := by
  refine Machine.Run.induction_on_trace
    (I := fun tr _ s => ∀ params, s.encoder = some params → ∃ settings,
      lastOpened tr = some settings ∧
        params.fRfConstant = Encoder.rateFactor settings.height settings.maxBitrate) ?_ ?_ h
  · intro params hparams
    cases hparams
  · intro tr es s a s' out ih hstep params hparams
    rcases ho : openedBy a with _ | settings
    · obtain ⟨old, hold, heq⟩ := (encoderMoves_of_step hstep).fRfConstant_eq ho hparams
      obtain ⟨settings, hlast, hrate⟩ := ih old hold
      exact ⟨settings, by rw [lastOpened_snoc_of_none ho, hlast], by rw [heq, hrate]⟩
    · exact ⟨settings, lastOpened_snoc_of_some ho, rateFactor_of_openedBy ho hstep hparams⟩

end

/-! ## One call -/

/-- The call of `Encode` resizes as it is to: x264 has somewhere to store its parameters to,
and where it reconfigures the encoder is left with the rate factor `InitEncode` would choose
for the height of the frame and the target bitrate. -/
structure ResizeAgrees (reconfigured : Bool) (s : Encoder) (frame : VideoFrame) (s' : Encoder)
    (out : List EncoderEvent) : Prop where
  destination : .parameters true ∈ out
  rateFactor : reconfigured = true → ∀ params, s'.encoder = some params →
    params.fRfConstant = Encoder.rateFactor frame.height s.targetKbps

section

variable {webrtc : WebrtcVideo} {s s' : Encoder} {a : EncoderAction}
  {frame : VideoFrame} {frameTypes : Option (List FrameType)} {nals : Option NalList}
  {out : List EncoderEvent}

/-- What `Encode` does behind the resize path has no more to do with the parameters. -/
theorem Encoder.parameters_encodeSized (b : Bool) :
    .parameters b ∉ (s.encodeSized webrtc frame frameTypes nals).2 := by
  have hdeliver : ∀ r, .parameters b ∉ Encoder.deliver r := by
    intro r hmem
    unfold Encoder.deliver at hmem
    split at hmem <;> simp at hmem
  unfold Encoder.encodeSized
  split
  · unfold Encoder.encodeFrame
    cases nals with
    | none => simp [Encoder.pictureClean]
    | some nals =>
        dsimp only
        split_ifs <;> simp [hdeliver]
  · simp
  · simp

/-- What is passed to `x264_encoder_parameters` on the resize path. -/
theorem Encoder.parameters_mem_encode_iff (hopen : s.encoder.isSome = true)
    (hframe : frame.height ≠ s.height) (b : Bool) :
    .parameters b ∈ (s.encode webrtc frame frameTypes nals).2 ↔
      b = false ∧ s.encodedImageCallback = true := by
  by_cases hcallback : s.encodedImageCallback = true
  · rw [Encoder.encode_eq_resize webrtc hopen hcallback hframe frameTypes nals true]
    simp [Encoder.resize, Encoder.parameters_encodeSized, hcallback]
  · rw [Bool.not_eq_true] at hcallback
    unfold Encoder.encode
    rw [if_pos (.inr hcallback)]
    simp [hcallback]

/-- A call of `Encode` leaves the encoder open with the parameters it has, or closes it. -/
theorem EncoderMoves.encoder_of_encode
    (h : EncoderMoves webrtc s (.encode frame frameTypes nals) s' out)
    (params : EncoderParams) (hparams : s'.encoder = some params) : s.encoder = some params := by
  cases h with
  | refused status => exact hparams
  | skipped frame frameTypes nals hopen hout => exact hparams
  | encodeFailed frame frameTypes forceKeyFrame hopen hcallback htypes hout => cases hparams
  | fragmented frame frameTypes nals n hopen hwrote hout => exact hparams

/-- **No frame of another height resizes the encoder.**  Whatever open encoder it comes to,
x264 gets a null pointer to store its parameters to, or, without a callback, is not asked for
them.  The parameters of the encoder stay what they are, so that an encoder that has come from
its construction has the rate factor of the settings it was opened with.  With a destination
the path would set the one `InitEncode` chooses, but for a small picture at a low bitrate. -/
theorem not_resizeAgrees (hopen : s.encoder.isSome = true) (hframe : frame.height ≠ s.height)
    (hstep : (encoderMachine webrtc).step s (.encode frame frameTypes nals) =
      some (s', out)) :
    (∀ reconfigured, ¬ ResizeAgrees reconfigured s frame s' out) ∧
    (.parameters false ∈ out ↔ s.encodedImageCallback = true) ∧
    (∀ params, s'.encoder = some params → s.encoder = some params) ∧
    (∀ mode tr es, EncoderRuns webrtc mode tr es s → ∀ params, s'.encoder = some params →
      ∃ settings, lastOpened tr = some settings ∧
        params.fRfConstant = Encoder.rateFactor settings.height settings.maxBitrate) ∧
    ∀ params, (s.resize frame true true).1.encoder = some params →
      (params.fRfConstant = Encoder.rateFactor frame.height s.targetKbps ↔
        720 ≤ frame.height ∨ 1000 ≤ s.targetKbps) := by
  have hout : out = (s.encode webrtc frame frameTypes nals).2 :=
    congrArg Prod.snd (Option.some.inj hstep).symm
  have hkept := (encoderMoves_of_step hstep).encoder_of_encode
  refine ⟨?_, ?_, hkept, ?_, ?_⟩
  · rintro reconfigured ⟨hdestination, -⟩
    rw [hout, Encoder.parameters_mem_encode_iff hopen hframe] at hdestination
    cases hdestination.1
  · rw [hout, Encoder.parameters_mem_encode_iff hopen hframe, and_iff_right rfl]
  · intro mode tr es hruns params hparams
    exact rateFactor_of_opened hruns params (hkept params hparams)
  · intro params hparams
    exact Encoder.resize_fRfConstant_iff hparams

end

/-! ## A frame of 360 lines -/

/-- A frame of 360 lines that x264 makes one unit of. -/
def smallFrameAction : EncoderAction := .encode ⟨640, 360⟩ none (some ⟨[sliceNal], by decide⟩)

/-- After full HD it comes to an open encoder that encodes at normal quality and goes on so,
where `InitEncode` would choose high quality. -/
def smallFrameRun : Bool :=
  ((encoderMachine i420Webrtc).exec {} openActions).any fun opened =>
    opened.1.encoder.isSome ∧ opened.1.height = 1080 ∧
      opened.1.encodedImageCallback = true ∧
      Encoder.rateFactor 360 opened.1.targetKbps = highQualityCrf ∧
      ((encoderMachine i420Webrtc).step opened.1 smallFrameAction).any fun resized =>
        .parameters false ∈ resized.2 ∧ .parameters true ∉ resized.2 ∧
          resized.1.encoder.any (·.fRfConstant = normalQualityCrf)

/-- Its call finds no destination, whatever x264 answers. -/
theorem not_resizeAgrees_small_frame :
    ∃ tr es s s' out, EncoderRuns i420Webrtc .singleNalUnit tr es s ∧
      tr.map Prod.snd = openActions ∧
      (encoderMachine i420Webrtc).step s smallFrameAction = some (s', out) ∧
      (∀ reconfigured, ¬ ResizeAgrees reconfigured s ⟨640, 360⟩ s' out) ∧
      (.parameters false ∈ out ↔ s.encodedImageCallback = true) := by
  have hrun : smallFrameRun = true := by decide +kernel
  obtain ⟨⟨s, es⟩, hexec, hopened⟩ := (Option.any_eq_true _ _).mp hrun
  obtain ⟨hopen, hheight, -, -, hstep⟩ := of_decide_eq_true hopened
  obtain ⟨⟨s', out⟩, hstep, -⟩ := (Option.any_eq_true _ _).mp hstep
  have hframe : (360 : ℤ) ≠ s.height := by
    rw [hheight]
    decide
  have hnot := not_resizeAgrees hopen hframe hstep
  exact ⟨_, es, s, s', out, .of_exec hexec, Machine.map_snd_trace hexec, hstep, hnot.1, hnot.2.1⟩

/-- **The resize path passes a null pointer.**  The frame of 360 lines after full HD leaves the
encoder at normal quality. -/
theorem resize_passes_null :
    ∃ tr es s s' out, EncoderRuns i420Webrtc .singleNalUnit tr es s ∧
      tr.map Prod.snd = openActions ∧ s.encoder.isSome = true ∧ s.height = 1080 ∧
      (encoderMachine i420Webrtc).step s smallFrameAction = some (s', out) ∧
      .parameters false ∈ out ∧
      (∃ params, s'.encoder = some params ∧ params.fRfConstant = normalQualityCrf) ∧
      Encoder.rateFactor 360 s.targetKbps = highQualityCrf ∧
      ∀ reconfigured, ¬ ResizeAgrees reconfigured s ⟨640, 360⟩ s' out := by
  have hrun : smallFrameRun = true := by decide +kernel
  obtain ⟨⟨s, es⟩, hexec, hopened⟩ := (Option.any_eq_true _ _).mp hrun
  obtain ⟨hopen, hheight, -, hhigh, hstep⟩ := of_decide_eq_true hopened
  obtain ⟨⟨s', out⟩, hstep, hresized⟩ := (Option.any_eq_true _ _).mp hstep
  obtain ⟨hnull, hno, hnormal⟩ := of_decide_eq_true hresized
  obtain ⟨params, hparams, hrate⟩ := (Option.any_eq_true _ _).mp hnormal
  refine ⟨_, es, s, s', out, .of_exec hexec, Machine.map_snd_trace hexec, hopen, hheight, hstep,
    hnull, ⟨params, hparams, of_decide_eq_true hrate⟩, hhigh, ?_⟩
  intro reconfigured hagrees
  exact hno hagrees.destination

end Caff
