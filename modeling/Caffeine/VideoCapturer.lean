/-
# The video capturer

The class `VideoCapturer` of `src/VideoCapturer.cpp`: the frame rate limiter, the
computation of the size a frame is scaled to, and the choice between the scaled buffer and
the unscaled one.

Arithmetic is that of `int32_t` for sizes and of `int64_t` for microseconds, and undefined
on overflow.  What the adapter of libwebrtc, the allocations and libyuv answer in a call is
an input.

* `VideoCapturer.sendVideo` : a frame;
* `Size.exact` : the size computed with exact integers;
* `adaptedSize_eq_some_iff` : the code computes that size or overflows.
-/
import Caffeine.Library.MachineInt
import Caffeine.Policy

namespace Caff

open MachineInt

/-! ## The members -/

structure VideoCapturer where
  lastTimestamp : ℤ
  interFrameLimit : ℤ
  frameWidthMax : ℤ
  frameHeightMax : ℤ
  deriving DecidableEq, Repr

structure Size where
  width : ℤ
  height : ℤ
  deriving DecidableEq, Repr

/-- What `AdaptFrame` stores for a frame it does not drop. -/
structure Adaptation where
  adapted : Size
  translatedCameraTime : ℤ
  deriving DecidableEq, Repr

/-- The arguments of `sendVideo`, but for the picture itself. -/
structure CapturedFrame where
  size : Size
  timestamp : ℤ
  deriving DecidableEq, Repr

/-- The answers a call gets from outside, up to the one that ends it. -/
structure CaptureAnswers where
  adaptFrame : Option Adaptation
  unscaledCreated : Bool := true
  convertResult : ℤ := 0
  scaledCreated : Bool := true
  deriving DecidableEq, Repr

/-- How a call of `sendVideo` ends.  The buffer that is sent is the one in the frame passed
to `OnFrame` and the one that is returned. -/
inductive SentVideo
  | tooSoon
  | adapterDropped
  | notCreated
  | notConverted
  | sent (buffer : Size) (translatedCameraTime : ℤ) (original : Size)
  deriving DecidableEq, Repr

/-- The microseconds of a second count, as `std::chrono` converts them. -/
def microsecondsOfSeconds (s : ℤ) : Option ℤ := mul 64 s 1000000

/-- `std::chrono::seconds::min()`. -/
def secondsMin : ℤ := -2 ^ 63

/-! ## The size of a frame -/

/-- The smaller side is raised to the minimum. -/
def raiseToMinimum (size adapted : Size) : Option Size :=
  if size.width ≥ size.height ∧ adapted.height < minFrameDimension then do
    let scaled ← mul 32 size.width minFrameDimension
    let adaptedWidth ← div 32 scaled size.height
    pure ⟨adaptedWidth, minFrameDimension⟩
  else if size.height > size.width ∧ adapted.width < minFrameDimension then do
    let scaled ← mul 32 size.height minFrameDimension
    let adaptedHeight ← div 32 scaled size.width
    pure ⟨minFrameDimension, adaptedHeight⟩
  else pure adapted

def capHeight (frameHeightMax : ℤ) (adapted : Size) : Option Size :=
  if adapted.height > frameHeightMax then do
    let scaled ← mul 32 adapted.width frameHeightMax
    let adaptedWidth ← div 32 scaled adapted.height
    pure ⟨adaptedWidth, frameHeightMax⟩
  else pure adapted

def capWidth (frameWidthMax : ℤ) (adapted : Size) : Option Size :=
  if adapted.width > frameWidthMax then do
    let scaled ← mul 32 adapted.height frameWidthMax
    let adaptedHeight ← div 32 scaled adapted.width
    pure ⟨frameWidthMax, adaptedHeight⟩
  else pure adapted

/-- `(x + 1) & ~1`: the lowest bit of the sum is cleared. -/
def roundUpToEven (x : ℤ) : Option ℤ := do
  let y ← add 32 x 1
  pure (y / 2 * 2)

namespace VideoCapturer

/-- The size computation of `sendVideo`, from the size the adapter stored. -/
def adaptedSize (c : VideoCapturer) (size adapted : Size) : Option Size := do
  let adapted ← raiseToMinimum size adapted
  let adapted ← capHeight c.frameHeightMax adapted
  let adapted ← capWidth c.frameWidthMax adapted
  let adaptedWidth ← roundUpToEven adapted.width
  let adaptedHeight ← roundUpToEven adapted.height
  pure ⟨adaptedWidth, adaptedHeight⟩

/-! ## The functions -/

/-- The constructor. -/
def construct : Option VideoCapturer := do
  let lastTimestamp ← microsecondsOfSeconds secondsMin
  let dropFps ← add 32 maxFps 2
  let interFrameLimit ← div 64 1000000 dropFps
  pure
    { lastTimestamp
      interFrameLimit
      frameWidthMax := maxFrameWidth
      frameHeightMax := maxFrameHeight }

def setFramerateLimit (c : VideoCapturer) (framerate : ℤ) : Option VideoCapturer := do
  let dropFps ← add 32 framerate 2
  let interFrameLimit ← div 64 1000000 dropFps
  pure { c with interFrameLimit }

def setFrameSizeLimit (c : VideoCapturer) (width height : ℤ) : VideoCapturer :=
  { c with frameHeightMax := height, frameWidthMax := width }

/-- The limiter at the head of `sendVideo`: the capturer behind it, and whether the frame
passes. -/
def limit (c : VideoCapturer) (timestamp : ℤ) : Option (VideoCapturer × Bool) := do
  let span ← sub 64 timestamp c.lastTimestamp
  if span < c.interFrameLimit then pure (c, false)
  else pure ({ c with lastTimestamp := timestamp }, true)

/-- `sendVideo` behind the adapter. -/
def deliver (c : VideoCapturer) (size : Size) (answers : CaptureAnswers)
    (adaptation : Adaptation) : Option SentVideo := do
  let adapted ← c.adaptedSize size adaptation.adapted
  if !answers.unscaledCreated then pure .notCreated
  else if answers.convertResult ≠ 0 then pure .notConverted
  else if adapted.height ≠ size.height then
    if !answers.scaledCreated then pure .notCreated
    else pure (.sent adapted adaptation.translatedCameraTime size)
  -- the frame goes as it came
  else pure (.sent size adaptation.translatedCameraTime size)

def sendVideo (c : VideoCapturer) (frame : CapturedFrame) (answers : CaptureAnswers) :
    Option (VideoCapturer × SentVideo) := do
  let (c, passes) ← c.limit frame.timestamp
  if !passes then pure (c, .tooSoon)
  else
    match answers.adaptFrame with
    | none => pure (c, .adapterDropped)
    | some adaptation => do
        let outcome ← c.deliver frame.size answers adaptation
        pure (c, outcome)

end VideoCapturer

/-! ## What a call does -/

/-- The size computation does not overflow, where the adapter lets the frame through. -/
def VideoCapturer.SizeComputed (c : VideoCapturer) (frame : CapturedFrame)
    (answers : CaptureAnswers) : Prop :=
  ∀ adaptation, answers.adaptFrame = some adaptation →
    ∃ adapted, c.adaptedSize frame.size adaptation.adapted = some adapted

/-- The frame got past the limiter. -/
def SentVideo.passed : SentVideo → Bool
  | .tooSoon => false
  | _ => true

section

variable {c c' : VideoCapturer} {frame : CapturedFrame} {answers : CaptureAnswers}
  {outcome : SentVideo}

/-- The limiter compares the time since the frame that passed last, where it is
representable. -/
theorem limit_eq_some_iff {timestamp : ℤ} {passes : Bool} :
    c.limit timestamp = some (c', passes) ↔
      Fits 64 (timestamp - c.lastTimestamp) ∧
        (timestamp - c.lastTimestamp < c.interFrameLimit ∧ c' = c ∧ passes = false ∨
          c.interFrameLimit ≤ timestamp - c.lastTimestamp ∧
            c' = { c with lastTimestamp := timestamp } ∧ passes = true) := by
  unfold VideoCapturer.limit sub
  by_cases hfits : Fits 64 (timestamp - c.lastTimestamp)
  · rw [checked_of_fits hfits, Option.bind_eq_bind, Option.bind_some]
    by_cases hspan : timestamp - c.lastTimestamp < c.interFrameLimit
    · rw [if_pos hspan]
      have hspan' : ¬ c.interFrameLimit ≤ timestamp - c.lastTimestamp := by omega
      simp [hfits, hspan, hspan', eq_comm]
    · rw [if_neg hspan]
      have hspan' : c.interFrameLimit ≤ timestamp - c.lastTimestamp := by omega
      simp [hfits, hspan, hspan', eq_comm]
  · rw [checked_of_not_fits hfits]
    simp [hfits]

/-- A frame that is delivered is not one that came too soon. -/
theorem passed_of_deliver {size : Size} {adaptation : Adaptation}
    (h : c.deliver size answers adaptation = some outcome) : outcome.passed = true := by
  unfold VideoCapturer.deliver at h
  rw [Option.bind_eq_bind, Option.bind_eq_some_iff] at h
  obtain ⟨adapted, -, h⟩ := h
  repeat' split at h
  all_goals
    rw [← Option.some.inj h]
    rfl

/-- A call changes the capturer as its limiter does. -/
theorem limit_of_sendVideo (h : c.sendVideo frame answers = some (c', outcome)) :
    c.limit frame.timestamp = some (c', outcome.passed) := by
  unfold VideoCapturer.sendVideo at h
  rw [Option.bind_eq_bind, Option.bind_eq_some_iff] at h
  obtain ⟨⟨d, passes⟩, hlimit, h⟩ := h
  rw [hlimit]
  dsimp only at h
  cases passes with
  | false =>
      obtain ⟨rfl, rfl⟩ := Prod.mk.inj (Option.some.inj h)
      rfl
  | true =>
      rcases hadapt : answers.adaptFrame with _ | adaptation
      · rw [hadapt] at h
        obtain ⟨rfl, rfl⟩ := Prod.mk.inj (Option.some.inj h)
        rfl
      · rw [hadapt] at h
        obtain ⟨x, hx, h⟩ := Option.bind_eq_some_iff.mp h
        obtain ⟨rfl, rfl⟩ := Prod.mk.inj (Option.some.inj h)
        rw [passed_of_deliver hx]

/-- The limiter leaves the limits of the sizes alone. -/
theorem adaptedSize_of_limit {timestamp : ℤ} {passes : Bool}
    (h : c.limit timestamp = some (c', passes)) : c'.adaptedSize = c.adaptedSize := by
  rcases limit_eq_some_iff.mp h with ⟨-, ⟨-, rfl, -⟩ | ⟨-, rfl, -⟩⟩
  · rfl
  · rfl

theorem exists_deliver {size adapted : Size} {adaptation : Adaptation}
    (h : c.adaptedSize size adaptation.adapted = some adapted) :
    ∃ outcome, c.deliver size answers adaptation = some outcome := by
  unfold VideoCapturer.deliver
  rw [h, Option.bind_eq_bind, Option.bind_some]
  repeat' split
  all_goals exact ⟨_, rfl⟩

/-- **A call returns** where its limiter and its size computation do. -/
theorem exists_sendVideo {passes : Bool} (hlimit : c.limit frame.timestamp = some (c', passes))
    (hsize : c.SizeComputed frame answers) :
    ∃ outcome, c.sendVideo frame answers = some (c', outcome) := by
  unfold VideoCapturer.sendVideo
  rw [hlimit, Option.bind_eq_bind, Option.bind_some]
  dsimp only
  cases passes with
  | false => exact ⟨.tooSoon, rfl⟩
  | true =>
      rcases hadapt : answers.adaptFrame with _ | adaptation
      · exact ⟨.adapterDropped, rfl⟩
      · obtain ⟨adapted, hadapted⟩ := hsize adaptation hadapt
        rw [← adaptedSize_of_limit hlimit] at hadapted
        obtain ⟨outcome, houtcome⟩ : ∃ outcome, c'.deliver frame.size answers adaptation =
            some outcome := exists_deliver hadapted
        refine ⟨outcome, ?_⟩
        rw [if_neg (by decide)]
        dsimp only
        rw [houtcome]
        rfl

/-- **A frame that is sent.**  It has the computed size, unless the computed height is its
own. -/
theorem buffer_of_sendVideo {buffer original : Size} {time : ℤ}
    (h : c.sendVideo frame answers = some (c', .sent buffer time original)) :
    ∃ adaptation adapted, answers.adaptFrame = some adaptation ∧
      c.adaptedSize frame.size adaptation.adapted = some adapted ∧
      buffer = if adapted.height ≠ frame.size.height then adapted else frame.size := by
  unfold VideoCapturer.sendVideo at h
  rw [Option.bind_eq_bind, Option.bind_eq_some_iff] at h
  obtain ⟨⟨d, passes⟩, hlimit, h⟩ := h
  dsimp only at h
  cases passes with
  | false => cases (Prod.mk.inj (Option.some.inj h)).2
  | true =>
      rcases hadapt : answers.adaptFrame with _ | adaptation
      · rw [hadapt] at h
        cases (Prod.mk.inj (Option.some.inj h)).2
      · rw [hadapt] at h
        obtain ⟨x, hx, h⟩ := Option.bind_eq_some_iff.mp h
        obtain ⟨rfl, rfl⟩ := Prod.mk.inj (Option.some.inj h)
        unfold VideoCapturer.deliver at hx
        rw [Option.bind_eq_bind, Option.bind_eq_some_iff] at hx
        obtain ⟨adapted, hadapted, hx⟩ := hx
        rw [adaptedSize_of_limit hlimit] at hadapted
        refine ⟨adaptation, adapted, rfl, hadapted, ?_⟩
        split at hx
        · cases Option.some.inj hx
        · split at hx
          · cases Option.some.inj hx
          · split at hx
            · rename_i hheight
              split at hx
              · cases Option.some.inj hx
              · rw [if_pos hheight]
                exact (SentVideo.sent.inj (Option.some.inj hx)).1.symm
            · rename_i hheight
              rw [if_neg hheight]
              exact (SentVideo.sent.inj (Option.some.inj hx)).1.symm

end

/-! ## The size in exact integers

Sizes and limits are not negative, where `/` is the division of the code. -/

namespace Size

def raised (size adapted : Size) : Size :=
  if size.width ≥ size.height ∧ adapted.height < minFrameDimension then
    ⟨size.width * minFrameDimension / size.height, minFrameDimension⟩
  else if size.height > size.width ∧ adapted.width < minFrameDimension then
    ⟨minFrameDimension, size.height * minFrameDimension / size.width⟩
  else adapted

def heightCapped (adapted : Size) (frameHeightMax : ℤ) : Size :=
  if adapted.height > frameHeightMax then
    ⟨adapted.width * frameHeightMax / adapted.height, frameHeightMax⟩
  else adapted

def widthCapped (adapted : Size) (frameWidthMax : ℤ) : Size :=
  if adapted.width > frameWidthMax then
    ⟨frameWidthMax, adapted.height * frameWidthMax / adapted.width⟩
  else adapted

def evened (adapted : Size) : Size :=
  ⟨(adapted.width + 1) / 2 * 2, (adapted.height + 1) / 2 * 2⟩

/-- The size computed with exact integers. -/
def exact (size adapted limits : Size) : Size :=
  (((size.raised adapted).heightCapped limits.height).widthCapped limits.width).evened

/-- Both sides are at least zero. -/
def Nonneg (size : Size) : Prop := 0 ≤ size.width ∧ 0 ≤ size.height

end Size

/-- The limits of a capturer. -/
def VideoCapturer.limits (c : VideoCapturer) : Size := ⟨c.frameWidthMax, c.frameHeightMax⟩

section

variable {size adapted result : Size} {c : VideoCapturer}

theorem Size.nonneg_raised (hsize : size.Nonneg) (h : adapted.Nonneg) :
    (size.raised adapted).Nonneg := by
  unfold Size.raised
  split
  · constructor
    · exact Int.ediv_nonneg (mul_nonneg hsize.1 (by decide)) hsize.2
    · show 0 ≤ minFrameDimension
      decide
  · split
    · constructor
      · show 0 ≤ minFrameDimension
        decide
      · exact Int.ediv_nonneg (mul_nonneg hsize.2 (by decide)) hsize.1
    · exact h

theorem Size.nonneg_heightCapped {frameHeightMax : ℤ} (hlimit : 0 ≤ frameHeightMax)
    (h : adapted.Nonneg) : (adapted.heightCapped frameHeightMax).Nonneg := by
  unfold Size.heightCapped
  split
  · constructor
    · exact Int.ediv_nonneg (mul_nonneg h.1 hlimit) h.2
    · exact hlimit
  · exact h

/-- Where raising to the minimum does not overflow. -/
def RaiseFits (size adapted : Size) : Prop :=
  (size.height ≤ size.width ∧ adapted.height < minFrameDimension →
    Fits 32 (size.width * minFrameDimension)) ∧
  (size.width < size.height ∧ adapted.width < minFrameDimension →
    Fits 32 (size.height * minFrameDimension))

/-- Where the caps and the rounding do not overflow. -/
structure CapsFit (adapted limits : Size) : Prop where
  height : limits.height < adapted.height → Fits 32 (adapted.width * limits.height)
  width : limits.width < (adapted.heightCapped limits.height).width →
    Fits 32 ((adapted.heightCapped limits.height).height * limits.width)
  evenWidth :
    Fits 32 (((adapted.heightCapped limits.height).widthCapped limits.width).width + 1)
  evenHeight :
    Fits 32 (((adapted.heightCapped limits.height).widthCapped limits.width).height + 1)

theorem raiseToMinimum_eq_some (hwidth : 0 < size.width) (hheight : 0 < size.height) :
    raiseToMinimum size adapted = some result ↔
      RaiseFits size adapted ∧ size.raised adapted = result := by
  unfold raiseToMinimum Size.raised RaiseFits
  by_cases hland : size.width ≥ size.height ∧ adapted.height < minFrameDimension
  · have hport : ¬ (size.width < size.height ∧ adapted.width < minFrameDimension) := by omega
    rw [if_pos hland, if_pos hland, mul_div_eq_some hwidth.le (by decide) hheight]
    simp [hland, hport]
  · rw [if_neg hland, if_neg hland]
    by_cases hport : size.height > size.width ∧ adapted.width < minFrameDimension
    · rw [if_pos hport, if_pos hport, mul_div_eq_some hheight.le (by decide) hwidth]
      simp [hport]
    · rw [if_neg hport, if_neg hport]
      simp [hland, hport]

theorem capHeight_eq_some {frameHeightMax : ℤ} (h : adapted.Nonneg)
    (hlimit : 0 ≤ frameHeightMax) :
    capHeight frameHeightMax adapted = some result ↔
      (frameHeightMax < adapted.height → Fits 32 (adapted.width * frameHeightMax)) ∧
        adapted.heightCapped frameHeightMax = result := by
  unfold capHeight Size.heightCapped
  by_cases hcap : adapted.height > frameHeightMax
  · rw [if_pos hcap, if_pos hcap, mul_div_eq_some h.1 hlimit (by omega)]
    simp [hcap]
  · rw [if_neg hcap, if_neg hcap]
    simp [hcap]

theorem capWidth_eq_some {frameWidthMax : ℤ} (h : adapted.Nonneg)
    (hlimit : 0 ≤ frameWidthMax) :
    capWidth frameWidthMax adapted = some result ↔
      (frameWidthMax < adapted.width → Fits 32 (adapted.height * frameWidthMax)) ∧
        adapted.widthCapped frameWidthMax = result := by
  unfold capWidth Size.widthCapped
  by_cases hcap : adapted.width > frameWidthMax
  · rw [if_pos hcap, if_pos hcap, mul_div_eq_some h.2 hlimit (by omega)]
    simp [hcap]
  · rw [if_neg hcap, if_neg hcap]
    simp [hcap]

theorem roundUpToEven_eq_some {x y : ℤ} :
    roundUpToEven x = some y ↔ Fits 32 (x + 1) ∧ (x + 1) / 2 * 2 = y := by
  unfold roundUpToEven add
  rw [Option.bind_eq_bind, Option.bind_eq_some_iff]
  constructor
  · rintro ⟨z, hz, hy⟩
    obtain ⟨hfits, rfl⟩ := checked_eq_some.mp hz
    exact ⟨hfits, Option.some.inj hy⟩
  · rintro ⟨hfits, rfl⟩
    exact ⟨x + 1, checked_of_fits hfits, rfl⟩

/-- **The size computation.**  It overflows, or its result is the exact one. -/
theorem adaptedSize_eq_some_iff (hwidth : 0 < size.width) (hheight : 0 < size.height)
    (hadapted : adapted.Nonneg) (hlimits : c.limits.Nonneg) :
    c.adaptedSize size adapted = some result ↔
      RaiseFits size adapted ∧ CapsFit (size.raised adapted) c.limits ∧
        size.exact adapted c.limits = result := by
  have hraised : (size.raised adapted).Nonneg :=
    Size.nonneg_raised ⟨hwidth.le, hheight.le⟩ hadapted
  have hcapped : ((size.raised adapted).heightCapped c.frameHeightMax).Nonneg :=
    Size.nonneg_heightCapped hlimits.2 hraised
  unfold VideoCapturer.adaptedSize
  simp only [Option.bind_eq_bind, Option.bind_eq_some_iff,
    raiseToMinimum_eq_some hwidth hheight, roundUpToEven_eq_some]
  constructor
  · rintro ⟨-, ⟨hraise, rfl⟩, a, ha, b, hb, x, ⟨hx, rfl⟩, y, ⟨hy, rfl⟩, hresult⟩
    obtain ⟨hheightFits, rfl⟩ := (capHeight_eq_some hraised hlimits.2).mp ha
    obtain ⟨hwidthFits, rfl⟩ := (capWidth_eq_some hcapped hlimits.1).mp hb
    exact ⟨hraise, ⟨hheightFits, hwidthFits, hx, hy⟩, Option.some.inj hresult⟩
  · rintro ⟨hraise, hcaps, rfl⟩
    exact ⟨_, ⟨hraise, rfl⟩, _, (capHeight_eq_some hraised hlimits.2).mpr ⟨hcaps.height, rfl⟩,
      _, (capWidth_eq_some hcapped hlimits.1).mpr ⟨hcaps.width, rfl⟩,
      _, ⟨hcaps.evenWidth, rfl⟩, _, ⟨hcaps.evenHeight, rfl⟩, rfl⟩

end

end Caff
