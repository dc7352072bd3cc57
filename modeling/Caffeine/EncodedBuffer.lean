/-
# The buffer of the encoded image

`InitEncode`, `Release`, the growth in `rtpFragmentize` and the error path of `Encode` each
change another part of what the encoder keeps of its buffer.  An open encoder has a buffer
of the size it notes, and what `rtpFragmentize` writes lies inside of it.
-/
import Caffeine.X264Encoder

namespace Caff

/-- The buffer is an allocation of `_size` bytes. -/
def EncodedImage.Allocated (image : EncodedImage) : Prop :=
  ∃ address block, image.IsAllocated address block

section

variable {webrtc : WebrtcVideo} {s s' : Encoder} {a : EncoderAction}
  {out : List EncoderEvent}

/-- A new buffer. -/
theorem EncodedImage.allocated_allocate (image : EncodedImage) (n : ℕ) :
    ({ image.allocate n with length := 0 } : EncodedImage).Allocated :=
  ⟨_, _, rfl, rfl, Memory.length_alloc n⟩

/-- `rtpFragmentize` leaves an allocated buffer behind, returning or throwing, and its
copies went into it. -/
theorem EncodedImage.Allocated.fragmentize {image : EncodedImage} (h : image.Allocated)
    (webrtc : WebrtcVideo) (width height : ℤ) (l : NalList) :
    ∃ address block,
      (rtpFragmentize webrtc image width height l).image.IsAllocated address block ∧
      ∀ w ∈ (rtpFragmentize webrtc image width height l).writes,
        w.buffer = some address ∧
        w.offset + w.size ≤ (rtpFragmentize webrtc image width height l).image.size := by
  obtain ⟨address, block, halloc⟩ := h
  by_cases hpos : ∀ nal ∈ l.nals, 0 < nal.iPayload
  · obtain ⟨address', capacity, hholds⟩ :=
      rtpFragmentize_holds webrtc width height halloc hpos
    obtain ⟨block', halloc', -⟩ := hholds.allocated
    refine ⟨address', block', halloc', ?_⟩
    rw [hholds.size]
    exact hholds.writes
  · rw [rtpFragmentize_of_not_pos webrtc width height hpos]
    refine ⟨address, block, halloc, ?_⟩
    intro w hw
    cases hw

/-- **Step lemma.** -/
theorem EncoderMoves.allocated (h : s.encoder.isSome = true → s.encodedImage.Allocated)
    (hmoves : EncoderMoves webrtc s a s' out) :
    s'.encoder.isSome = true → s'.encodedImage.Allocated := by
  intro hopen
  cases hmoves with
  | refused a status => exact h hopen
  | registered callback => exact h hopen
  | ratesStored allocation framerate reconfigured => exact h hopen
  | switched allocation framerate params fps hsome hfps => exact h (by rw [hsome]; rfl)
  | switchFailed allocation framerate params fps hrates hsome hframe hfps => exact h hopen
  | skipped frame frameTypes nals hsome hout => exact h hsome
  | opened settings n hok => exact EncodedImage.allocated_allocate _ _
  | fragmented frame frameTypes nals n hsome hwrote hout =>
      obtain ⟨address, block, halloc, -⟩ :=
        (h hsome).fragmentize webrtc frame.width frame.height nals
      exact ⟨address, block, halloc⟩
  -- the others close the encoder
  | released => cases hopen
  | initFailed settings n o hok => cases hopen
  | openFailed settings n hok => cases hopen
  | encodeFailed frame frameTypes forceKeyFrame hsome hcallback htypes hout => cases hopen

/-- What is written in a step is written to the buffer of an open encoder. -/
theorem EncoderMoves.wrote (h : s.encoder.isSome = true → s.encodedImage.Allocated)
    (hmoves : EncoderMoves webrtc s a s' out) {w : Write} (hw : .wrote w ∈ out) :
    s.encoder.isSome = true ∧ ∃ address block, s'.encodedImage.IsAllocated address block ∧
      w.buffer = some address ∧ w.offset + w.size ≤ s'.encodedImage.size := by
  cases hmoves with
  | fragmented frame frameTypes nals n hsome hwrote hout =>
      obtain ⟨address, block, halloc, hwrites⟩ :=
        (h hsome).fragmentize webrtc frame.width frame.height nals
      exact ⟨hsome, address, block, halloc, hwrites w ((hwrote w).mp hw)⟩
  | skipped frame frameTypes nals hsome hout =>
      rcases hout _ hw with he | he | he <;> cases he
  | encodeFailed frame frameTypes forceKeyFrame hsome hcallback htypes hout =>
      rcases List.mem_append.mp hw with hw | hw
      · cases hout _ hw
      · simp at hw
  | _ => simp at hw

end

/-- **The buffer of the encoded image.**  In every state a new encoder can get to, an open
encoder has a buffer of exactly the size it notes; and whatever a further call writes, it
writes for an open encoder, to its buffer and inside of it. -/
theorem allocated_of_encoder {webrtc : WebrtcVideo} {mode : PacketizationMode}
    {tr : List (Encoder × EncoderAction)} {es : List EncoderEvent} {s : Encoder}
    (h : EncoderRuns webrtc mode tr es s) :
    (s.encoder.isSome = true →
      ∃ address block, s.encodedImage.IsAllocated address block) ∧
    ∀ a s' out w, (encoderMachine webrtc).step s a = some (s', out) → .wrote w ∈ out →
      s.encoder.isSome = true ∧ ∃ address block, s'.encodedImage.IsAllocated address block ∧
        w.buffer = some address ∧ w.offset + w.size ≤ s'.encodedImage.size := by
  have hinv : s.encoder.isSome = true → s.encodedImage.Allocated := by
    refine Machine.Run.invariant
      (I := fun s : Encoder => s.encoder.isSome = true → s.encodedImage.Allocated) ?_ ?_ h
    · intro hopen
      cases hopen
    · intro s a s' out ih hs
      exact (encoderMoves_of_step hs).allocated ih
  constructor
  · exact hinv
  · intro a s' out w hs hw
    exact (encoderMoves_of_step hs).wrote hinv hw

/-! ## An encoder that encodes a frame -/

/-- Full HD, 2500 kbps. -/
def fullHd : CodecSettings := ⟨true, 30, 1920, 1080, 2500⟩

/-- The calls that open an encoder. -/
def openActions : List EncoderAction :=
  [.registerEncodeCompleteCallback true, .initEncode (some fullHd) 1200 .encoderOpens]

/-- Executing calls on a new encoder gives a run of it. -/
theorem exists_encoderRuns_of_exec (webrtc : WebrtcVideo) {l : List EncoderAction}
    {P : Encoder → List EncoderEvent → Prop}
    (h : ∃ s es, (encoderMachine webrtc).exec {} l = some (s, es) ∧ P s es) :
    ∃ tr es s, EncoderRuns webrtc .singleNalUnit tr es s ∧ tr.map Prod.snd = l ∧
      P s es := by
  obtain ⟨s, es, hexec, hP⟩ := h
  obtain ⟨tr, hrun, htr⟩ := Machine.Run.exists_of_exec hexec
  exact ⟨tr, es, s, hrun, htr, hP⟩

/-- The calls that open an encoder for four pixels and let it encode a frame of two units. -/
def tinyFrameActions : List EncoderAction :=
  [.registerEncodeCompleteCallback true,
    .initEncode (some ⟨true, 30, 2, 2, 2500⟩) 1200 .encoderOpens,
    .encode ⟨2, 2⟩ none (some twoNals)]

/-- The buffer of six bytes, after the two units have outgrown it. -/
theorem allocated_of_encoder_encode :
    ∃ tr es s, EncoderRuns i420Webrtc .singleNalUnit tr es s ∧
      tr.map Prod.snd = tinyFrameActions ∧
      s.encodedImage.size = 11 ∧ ∃ address block, s.encodedImage.IsAllocated address block := by
  obtain ⟨tr, es, s, hrun, htr, hopen, hsize⟩ :=
    exists_encoderRuns_of_exec i420Webrtc (l := tinyFrameActions)
      (P := fun s _ => s.encoder.isSome = true ∧ s.encodedImage.size = 11) ⟨_, _, rfl, rfl, rfl⟩
  exact ⟨tr, es, s, hrun, htr, hsize, (allocated_of_encoder hrun).1 hopen⟩

end Caff
