/-
# The x264 encoder

The class `X264Encoder` of `src/X264Encoder.cpp` as a machine.  An input is a call of one
of its functions with what x264 answers in it; every input is enabled, since the calls
check themselves whether the encoder is open.  What it uses of WebRTC is a parameter.

A step also shows what happens to the picture that is passed to x264, which copies
`rtpFragmentize` makes, and where `x264_encoder_parameters` stores.
-/
import Mathlib.Data.Rat.Defs
import Caffeine.Library.Machine
import Caffeine.Fragmentize

namespace Caff

open Machine (holds_of_some holds_of_guard holds_of_ite)

/-! ## Constants and data types -/

def highQualityCrf : ℚ := 18
def normalQualityCrf : ℚ := 43 / 2
def maxFrameHeightHighQualityCrf : ℤ := 720
def minBitrateKbpsHighQualityCrf : ℕ := 1000
def fpsHighThreshold : ℕ := 50
def fpsLowThreshold : ℕ := 35

/-- The `WEBRTC_VIDEO_CODEC_` results the encoder returns. -/
inductive CodecStatus
  | ok
  | error
  | errParameter
  | uninitialized
  deriving DecidableEq, Repr

/-- `webrtc::H264PacketizationMode`. -/
inductive PacketizationMode
  | nonInterleaved
  | singleNalUnit
  deriving DecidableEq, Repr

/-- `webrtc::FrameType`, of video frames. -/
inductive FrameType
  | emptyFrame
  | videoFrameKey
  | videoFrameDelta
  deriving DecidableEq, Repr

/-- What `InitEncode` reads of a `webrtc::VideoCodec`. -/
structure CodecSettings where
  isH264 : Bool
  maxFramerate : ℕ
  width : ℕ
  height : ℕ
  maxBitrate : ℕ
  deriving DecidableEq, Repr

/-- What `Encode` reads of a `webrtc::VideoFrame`. -/
structure VideoFrame where
  width : ℤ
  height : ℤ
  deriving DecidableEq, Repr

/-- What `SetRateAllocation` reads of a `webrtc::BitrateAllocation`. -/
structure BitrateAllocation where
  sumBps : ℕ
  sumKbps : ℕ
  deriving DecidableEq, Repr

/-- The members of an `x264_param_t` that depend on the call. -/
structure EncoderParams where
  iWidth : ℤ
  iHeight : ℤ
  iFpsNum : ℕ
  iBitrate : ℕ
  fRfConstant : ℚ
  iVbvBufferSize : ℕ
  iVbvMaxBitrate : ℕ
  iSliceMaxSize : Option ℕ
  deriving DecidableEq, Repr

/-- Where `pictureIn.img.plane[0]` points: nowhere, to the block of a picture that
`x264_picture_alloc` has allocated, or to a plane of a frame of WebRTC. -/
inductive Plane
  | unset
  | block (picture : ℕ)
  | borrowed
  deriving DecidableEq, Repr

/-- How far `InitEncode` gets with x264. -/
inductive InitOutcome
  | presetFails
  | pictureAllocFails
  | encoderOpenFails
  | encoderOpens
  deriving DecidableEq, Repr

/-! ## The encoder -/

/-- The members.  The last field gives new pictures their numbers. -/
structure Encoder where
  encoder : Option EncoderParams := none
  plane : Plane := .unset
  width : ℤ := 0
  height : ℤ := 0
  targetKbps : ℕ := 0
  targetFps : ℕ := 30
  packetizationMode : PacketizationMode := .singleNalUnit
  maxPayloadSize : ℕ := 0
  encodedImage : EncodedImage := {}
  encodedImageCallback : Bool := false
  frameCount : ℕ := 0
  pictures : ℕ := 0
  deriving DecidableEq, Repr

/-- What `Encode` makes of its frame types. -/
inductive FrameRequest
  | encode (forceKeyFrame : Bool)
  | skip
  | invalid
  deriving DecidableEq, Repr

/-- Only a single stream is supported. -/
def frameRequest : Option (List FrameType) → FrameRequest
  | none => .encode false
  | some [.emptyFrame] => .skip
  | some [type] => .encode (type = .videoFrameKey)
  | some _ => .invalid

/-- What can be seen of a call. -/
inductive EncoderEvent
  | returned (status : CodecStatus)
  | thrown
  | pictureAlloc (picture : ℕ)
  | pictureClean (plane : Plane)
  | parameters (destination : Bool)
  | encoded (forceKeyFrame : Bool) (pts : ℕ)
  | wrote (w : Write)
  | delivered (image : EncodedImage) (header : List Fragment)
  | released
  deriving DecidableEq, Repr

/-- The calls, and what x264 answers: whether it reconfigures, and the units of a frame,
if encoding it does not fail. -/
inductive EncoderAction
  | initEncode (codecSettings : Option CodecSettings) (maxPayloadSize : ℕ) (o : InitOutcome)
  | release
  | registerEncodeCompleteCallback (callback : Bool)
  | setRateAllocation (allocation : BitrateAllocation) (framerate : ℕ) (reconfigured : Bool)
  | encode (frame : VideoFrame) (frameTypes : Option (List FrameType)) (nals : Option NalList)

namespace Encoder

/-- `Release`. -/
def release (s : Encoder) : Encoder :=
  { s with
    encoder := none
    encodedImage := { s.encodedImage with buffer := none, owned := none }
    frameCount := 0 }

/-- The parameters the encoder is opened with. -/
def initParams (s : Encoder) : EncoderParams where
  iWidth := s.width
  iHeight := s.height
  iFpsNum := s.targetFps
  iBitrate := s.targetKbps
  fRfConstant :=
    if s.height ≥ maxFrameHeightHighQualityCrf ∨ s.targetKbps < minBitrateKbpsHighQualityCrf
    then normalQualityCrf else highQualityCrf
  iVbvBufferSize := s.targetKbps
  iVbvMaxBitrate := s.targetKbps
  iSliceMaxSize :=
    -- a cast to `unsigned int`
    if s.packetizationMode = .singleNalUnit then some (s.maxPayloadSize % 2 ^ 32) else none

/-- The framerate to switch to. -/
def nextFps (targetFps framerate : ℕ) : Option ℕ :=
  if framerate > fpsHighThreshold ∧ targetFps = 30 then some 60
  else if framerate < fpsLowThreshold ∧ targetFps = 60 then some 30
  else none

/-- `SetRateAllocation`. -/
def setRateAllocation (s : Encoder) (allocation : BitrateAllocation) (framerate : ℕ)
    (reconfigured : Bool) : Encoder × List EncoderEvent :=
  if allocation.sumBps = 0 ∨ framerate = 0 then (s, [.returned .errParameter])
  else
    let s : Encoder := { s with targetKbps := allocation.sumKbps }
    match s.encoder with
    | none => (s, [.returned .ok])
    | some params =>
        if s.frameCount = 0 then (s, [.returned .ok])
        else
          match nextFps s.targetFps framerate with
          | none => (s, [.returned .ok])
          | some fps =>
              let s : Encoder := { s with targetFps := fps }
              if reconfigured then
                ({ s with encoder := some { params with iFpsNum := fps } },
                  [.parameters true, .returned .ok])
              else (s, [.parameters true, .returned .errParameter])

variable (webrtc : WebrtcVideo)

/-- `InitEncode` up to the use of x264. -/
def prepare (s : Encoder) (settings : CodecSettings) (maxPayloadSize : ℕ) : Encoder :=
  { s.release with
    width := settings.width
    height := settings.height
    maxPayloadSize := maxPayloadSize
    targetKbps := settings.maxBitrate }

/-- `x264_picture_alloc`, where it succeeds. -/
def pictureAlloc (s : Encoder) : Encoder :=
  { s with plane := .block s.pictures, pictures := s.pictures + 1 }

/-- `x264_picture_clean` frees what the plane points to. -/
def pictureClean (s : Encoder) : Encoder × EncoderEvent :=
  ({ s with plane := .unset }, .pictureClean s.plane)

/-- `InitEncode` behind its checks. -/
def initEncode (s : Encoder) (settings : CodecSettings) (maxPayloadSize : ℕ) (o : InitOutcome) :
    Encoder × List EncoderEvent :=
  let s := s.prepare settings maxPayloadSize
  match o with
  | .presetFails | .pictureAllocFails => (s, [.released, .returned .error])
  | .encoderOpenFails =>
      let (cleaned, clean) := s.pictureAlloc.pictureClean
      (cleaned, [.released, .pictureAlloc s.pictures, clean, .returned .error])
  | .encoderOpens =>
      ({ s.pictureAlloc with
          encoder := some s.initParams
          encodedImage :=
            { s.encodedImage.allocate (webrtc.calcBufferSize settings.width settings.height) with
              length := 0 }
          frameCount := 0 },
        [.released, .pictureAlloc s.pictures, .returned .ok])

/-- The settings `InitEncode` accepts. -/
def acceptsSettings (settings : CodecSettings) : Bool :=
  settings.isH264 && settings.maxFramerate ≠ 0 && !(settings.width < 1 || settings.height < 1)

/-- The encoder can skip frames, and then the image is empty. -/
def deliver (r : Fragmented) : List EncoderEvent :=
  if 0 < r.image.length then [.delivered r.image r.header] else []

/-- `Encode` from the frame buffer on. -/
def encodeFrame (s : Encoder) (frame : VideoFrame) (forceKeyFrame : Bool)
    (nals : Option NalList) : Encoder × List EncoderEvent :=
  let s : Encoder := { s with plane := .borrowed }
  match nals with
  | none =>
      let (cleaned, clean) := ({ s with encoder := none } : Encoder).pictureClean
      (cleaned, [.encoded forceKeyFrame s.frameCount, clean, .returned .error])
  | some nals =>
      let r := rtpFragmentize webrtc s.encodedImage frame.width frame.height nals
      let s : Encoder := { s with encodedImage := r.image }
      let out := .encoded forceKeyFrame s.frameCount :: r.writes.map .wrote
      if r.thrown then (s, out ++ [.thrown])
      else
        ({ s with frameCount := (s.frameCount + 1) % 2 ^ 64 },
          out ++ (deliver r ++ [.returned .ok]))

/-- `Encode`.  The resize path passes a null pointer to `x264_encoder_parameters`, and does
not reconfigure, since the pointer is still null behind the call. -/
def encode (s : Encoder) (frame : VideoFrame) (frameTypes : Option (List FrameType))
    (nals : Option NalList) : Encoder × List EncoderEvent :=
  if s.encoder.isNone ∨ s.encodedImageCallback = false then (s, [.returned .uninitialized])
  else
    let resized : List EncoderEvent := if frame.height ≠ s.height then [.parameters false] else []
    let s : Encoder := { s with height := frame.height }
    match frameRequest frameTypes with
    | .encode forceKeyFrame =>
        let (s, out) := s.encodeFrame webrtc frame forceKeyFrame nals
        (s, resized ++ out)
    | .skip => (s, resized ++ [.returned .ok])
    | .invalid => (s, resized ++ [.thrown])

def step (s : Encoder) : EncoderAction → Option (Encoder × List EncoderEvent)
  | .initEncode none _ _ => some (s, [.returned .errParameter])
  | .initEncode (some settings) maxPayloadSize o =>
      if acceptsSettings settings then some (s.initEncode webrtc settings maxPayloadSize o)
      else some (s, [.returned .errParameter])
  | .release => some (s.release, [.released, .returned .ok])
  | .registerEncodeCompleteCallback callback =>
      some ({ s with encodedImageCallback := callback }, [.returned .ok])
  | .setRateAllocation allocation framerate reconfigured =>
      some (s.setRateAllocation allocation framerate reconfigured)
  | .encode frame frameTypes nals => some (s.encode webrtc frame frameTypes nals)

end Encoder

/-- The encoder as a machine. -/
def encoderMachine (webrtc : WebrtcVideo) : Machine Encoder EncoderAction EncoderEvent :=
  ⟨Encoder.step webrtc⟩

/-- A run of an encoder from its construction. -/
def EncoderRuns (webrtc : WebrtcVideo) (mode : PacketizationMode)
    (tr : List (Encoder × EncoderAction)) (es : List EncoderEvent) (s : Encoder) : Prop :=
  (encoderMachine webrtc).Run { packetizationMode := mode } tr es s

/-! ## What one step can do -/

/-- What happens to the picture that is passed to x264. -/
def EncoderEvent.ofPicture : EncoderEvent → Bool
  | .pictureAlloc _ | .pictureClean _ | .released => true
  | _ => false

/-- The ways a call can go. -/
inductive EncoderMoves (webrtc : WebrtcVideo) (s : Encoder) :
    EncoderAction → Encoder → List EncoderEvent → Prop
  | refused (a : EncoderAction) (status : CodecStatus) :
      EncoderMoves webrtc s a s [.returned status]
  | registered (callback : Bool) :
      EncoderMoves webrtc s (.registerEncodeCompleteCallback callback)
        { s with encodedImageCallback := callback } [.returned .ok]
  | released : EncoderMoves webrtc s .release s.release [.released, .returned .ok]
  | initFailed (settings : CodecSettings) (n : ℕ) (o : InitOutcome)
      (hok : Encoder.acceptsSettings settings = true) :
      EncoderMoves webrtc s (.initEncode (some settings) n o) (s.prepare settings n)
        [.released, .returned .error]
  | openFailed (settings : CodecSettings) (n : ℕ)
      (hok : Encoder.acceptsSettings settings = true) :
      EncoderMoves webrtc s (.initEncode (some settings) n .encoderOpenFails)
        { s.prepare settings n with plane := .unset, pictures := s.pictures + 1 }
        [.released, .pictureAlloc s.pictures, .pictureClean (.block s.pictures),
          .returned .error]
  | opened (settings : CodecSettings) (n : ℕ) (hok : Encoder.acceptsSettings settings = true) :
      EncoderMoves webrtc s (.initEncode (some settings) n .encoderOpens)
        { s.prepare settings n with
          plane := .block s.pictures
          pictures := s.pictures + 1
          encoder := some (s.prepare settings n).initParams
          encodedImage :=
            { (s.prepare settings n).encodedImage.allocate
                (webrtc.calcBufferSize settings.width settings.height) with length := 0 } }
        [.released, .pictureAlloc s.pictures, .returned .ok]
  | ratesStored (allocation : BitrateAllocation) (framerate : ℕ) (reconfigured : Bool) :
      EncoderMoves webrtc s (.setRateAllocation allocation framerate reconfigured)
        { s with targetKbps := allocation.sumKbps } [.returned .ok]
  | switched (allocation : BitrateAllocation) (framerate : ℕ) (params : EncoderParams) (fps : ℕ)
      (hopen : s.encoder = some params)
      (hfps : Encoder.nextFps s.targetFps framerate = some fps) :
      EncoderMoves webrtc s (.setRateAllocation allocation framerate true)
        { s with
          targetKbps := allocation.sumKbps
          targetFps := fps
          encoder := some { params with iFpsNum := fps } }
        [.parameters true, .returned .ok]
  | switchFailed (allocation : BitrateAllocation) (framerate : ℕ) (params : EncoderParams)
      (fps : ℕ) (hrates : ¬ (allocation.sumBps = 0 ∨ framerate = 0))
      (hopen : s.encoder = some params) (hframe : s.frameCount ≠ 0)
      (hfps : Encoder.nextFps s.targetFps framerate = some fps) :
      EncoderMoves webrtc s (.setRateAllocation allocation framerate false)
        { s with targetKbps := allocation.sumKbps, targetFps := fps }
        [.parameters true, .returned .errParameter]
  | skipped (frame : VideoFrame) (frameTypes : Option (List FrameType)) (nals : Option NalList)
      {out : List EncoderEvent} (hopen : s.encoder.isSome = true)
      (hout : ∀ e ∈ out, e = .parameters false ∨ e = .returned .ok ∨ e = .thrown) :
      EncoderMoves webrtc s (.encode frame frameTypes nals)
        { s with height := frame.height } out
  | encodeFailed (frame : VideoFrame) (frameTypes : Option (List FrameType))
      (forceKeyFrame : Bool) {out : List EncoderEvent} (hopen : s.encoder.isSome = true)
      (hcallback : s.encodedImageCallback = true)
      (htypes : frameRequest frameTypes = .encode forceKeyFrame)
      (hout : ∀ e ∈ out, e = .parameters false) :
      EncoderMoves webrtc s (.encode frame frameTypes none)
        { s with height := frame.height, plane := .unset, encoder := none }
        (out ++ [.encoded forceKeyFrame s.frameCount, .pictureClean .borrowed, .returned .error])
  | fragmented (frame : VideoFrame) (frameTypes : Option (List FrameType)) (nals : NalList)
      (n : ℕ) {out : List EncoderEvent} (hopen : s.encoder.isSome = true)
      (hwrote : ∀ w, .wrote w ∈ out ↔
        w ∈ (rtpFragmentize webrtc s.encodedImage frame.width frame.height nals).writes)
      (hout : ∀ e ∈ out, e.ofPicture = false) :
      EncoderMoves webrtc s (.encode frame frameTypes (some nals))
        { s with
          height := frame.height
          plane := .borrowed
          encodedImage :=
            (rtpFragmentize webrtc s.encodedImage frame.width frame.height nals).image
          frameCount := n } out

section

variable {webrtc : WebrtcVideo} {s s' : Encoder} {a : EncoderAction}
  {out : List EncoderEvent}

theorem encoderMoves_of_initEncode {settings : CodecSettings} {n : ℕ} (o : InitOutcome)
    (hok : Encoder.acceptsSettings settings = true) :
    EncoderMoves webrtc s (.initEncode (some settings) n o)
      (s.initEncode webrtc settings n o).1
      (s.initEncode webrtc settings n o).2 := by
  cases o with
  | presetFails => exact .initFailed settings n _ hok
  | pictureAllocFails => exact .initFailed settings n _ hok
  | encoderOpenFails => exact .openFailed settings n hok
  | encoderOpens => exact .opened settings n hok

theorem encoderMoves_of_setRateAllocation (allocation : BitrateAllocation) (framerate : ℕ)
    (reconfigured : Bool) :
    EncoderMoves webrtc s (.setRateAllocation allocation framerate reconfigured)
      (s.setRateAllocation allocation framerate reconfigured).1
      (s.setRateAllocation allocation framerate reconfigured).2 := by
  rw [Encoder.setRateAllocation.eq_def]
  by_cases hrates : allocation.sumBps = 0 ∨ framerate = 0
  · rw [if_pos hrates]
    exact .refused _ _
  · rw [if_neg hrates]
    dsimp only
    split
    · exact .ratesStored allocation framerate reconfigured
    · rename_i params hopen
      by_cases hframe : s.frameCount = 0
      · rw [if_pos hframe]
        exact .ratesStored allocation framerate reconfigured
      · rw [if_neg hframe]
        split
        · exact .ratesStored allocation framerate reconfigured
        · rename_i fps hfps
          cases reconfigured with
          | true => exact .switched allocation framerate params fps hopen hfps
          | false => exact .switchFailed allocation framerate params fps hrates hopen hframe hfps

/-- The events of a call that gets to `rtpFragmentize`, of which `l` are its copies. -/
theorem wrote_mem_iff {resized rest : List EncoderEvent} {l : List Write} {forceKeyFrame : Bool}
    {pts : ℕ} (hresized : ∀ e ∈ resized, e = .parameters false)
    (hrest : ∀ e ∈ rest, (∀ w, e ≠ .wrote w) ∧ e.ofPicture = false) :
    (∀ w, .wrote w ∈ resized ++ (.encoded forceKeyFrame pts :: l.map .wrote ++ rest) ↔ w ∈ l) ∧
    ∀ e ∈ resized ++ (.encoded forceKeyFrame pts :: l.map .wrote ++ rest), e.ofPicture = false := by
  constructor
  · intro w
    have hnot : .wrote w ∉ resized := by
      intro hmem
      cases hresized _ hmem
    have hnot' : .wrote w ∉ rest := by
      intro hmem
      exact (hrest _ hmem).1 w rfl
    simp [hnot, hnot']
  · intro e he
    simp only [List.mem_append, List.mem_cons, List.mem_map] at he
    rcases he with he | ((rfl | ⟨w, -, rfl⟩) | he)
    · rw [hresized e he]
      rfl
    · rfl
    · rfl
    · exact (hrest e he).2

/-- Behind the copies there are only the delivery and the result. -/
theorem deliver_quiet (r : Fragmented) :
    ∀ e ∈ Encoder.deliver r ++ [.returned .ok], (∀ w, e ≠ .wrote w) ∧ e.ofPicture = false := by
  intro e he
  unfold Encoder.deliver at he
  rcases List.mem_append.mp he with he | he
  · split at he
    · rw [List.mem_singleton.mp he]
      exact ⟨by simp, rfl⟩
    · cases he
  · rw [List.mem_singleton.mp he]
    exact ⟨by simp, rfl⟩

theorem encoderMoves_of_encodeFrame {frame : VideoFrame} {frameTypes : Option (List FrameType)}
    {nals : Option NalList} {forceKeyFrame : Bool} {resized : List EncoderEvent}
    (hopen : s.encoder.isSome = true) (hcallback : s.encodedImageCallback = true)
    (htypes : frameRequest frameTypes = .encode forceKeyFrame)
    (hresized : ∀ e ∈ resized, e = .parameters false) :
    EncoderMoves webrtc s (.encode frame frameTypes nals)
      (Encoder.encodeFrame webrtc { s with height := frame.height } frame forceKeyFrame
        nals).1
      (resized ++ (Encoder.encodeFrame webrtc { s with height := frame.height } frame
        forceKeyFrame nals).2) := by
  rw [Encoder.encodeFrame.eq_def]
  cases nals with
  | none => exact .encodeFailed frame frameTypes forceKeyFrame hopen hcallback htypes hresized
  | some nals =>
      dsimp only
      split
      · -- a check of `rtpFragmentize` has failed
        have hthrown : ∀ e ∈ [EncoderEvent.thrown], (∀ w, e ≠ .wrote w) ∧ e.ofPicture = false := by
          intro e he
          rw [List.mem_singleton.mp he]
          exact ⟨by simp, rfl⟩
        obtain ⟨hwrote, hout⟩ := wrote_mem_iff hresized hthrown
        exact .fragmented frame frameTypes nals s.frameCount hopen hwrote hout
      · obtain ⟨hwrote, hout⟩ := wrote_mem_iff hresized (deliver_quiet _)
        exact .fragmented frame frameTypes nals _ hopen hwrote hout

theorem encoderMoves_of_encode (frame : VideoFrame) (frameTypes : Option (List FrameType))
    (nals : Option NalList) :
    EncoderMoves webrtc s (.encode frame frameTypes nals)
      (s.encode webrtc frame frameTypes nals).1
      (s.encode webrtc frame frameTypes nals).2 := by
  rw [Encoder.encode.eq_def]
  by_cases hclosed : s.encoder.isNone ∨ s.encodedImageCallback = false
  · rw [if_pos hclosed]
    exact .refused _ _
  · rw [if_neg hclosed]
    rw [not_or, Bool.not_eq_true, Option.isNone_eq_false_iff, Bool.not_eq_false] at hclosed
    obtain ⟨hopen, hcallback⟩ := hclosed
    have hresized : ∀ e ∈ (if frame.height ≠ s.height then [EncoderEvent.parameters false]
        else []), e = .parameters false := by
      intro e he
      split at he
      · exact List.mem_singleton.mp he
      · cases he
    generalize (if frame.height ≠ s.height then [EncoderEvent.parameters false] else []) = resized
      at hresized
    dsimp only
    split
    · rename_i forceKeyFrame htypes
      exact encoderMoves_of_encodeFrame hopen hcallback htypes hresized
    · apply EncoderMoves.skipped frame frameTypes nals hopen
      intro e he
      rcases List.mem_append.mp he with he | he
      · left
        exact hresized e he
      · right
        left
        exact List.mem_singleton.mp he
    · apply EncoderMoves.skipped frame frameTypes nals hopen
      intro e he
      rcases List.mem_append.mp he with he | he
      · left
        exact hresized e he
      · right
        right
        exact List.mem_singleton.mp he

/-- **Inversion of a step.** -/
theorem encoderMoves_of_step (h : (encoderMachine webrtc).step s a = some (s', out)) :
    EncoderMoves webrtc s a s' out := by
  cases a with
  | initEncode codecSettings n o =>
      cases codecSettings with
      | none => exact holds_of_some h (.refused _ _)
      | some settings =>
          exact holds_of_ite h (fun hok => encoderMoves_of_initEncode o hok)
            fun _ => .refused _ _
  | release => exact holds_of_some h .released
  | registerEncodeCompleteCallback callback => exact holds_of_some h (.registered callback)
  | setRateAllocation allocation framerate reconfigured =>
      exact holds_of_some h (encoderMoves_of_setRateAllocation allocation framerate reconfigured)
  | encode frame frameTypes nals =>
      exact holds_of_some h (encoderMoves_of_encode frame frameTypes nals)

end

end Caff
