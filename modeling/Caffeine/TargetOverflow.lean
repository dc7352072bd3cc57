/-
# Overflow in the video limits

The encoder settings of the server are installed as limits without a bound, and the sizes
of frames are bounded only in their ratio.  `Broadcast::start`, `SetFramerateLimit` and the
size computation of `sendVideo` multiply and add them in 32 bits.

The settings are to raise the policy only.  Their width is not compared with it.
-/
import Caffeine.Instance
import Caffeine.FrameSizes

namespace Caff

open MachineInt

/-! ## The computations -/

/-- `targetMinBitrate` in `Broadcast::start`. -/
def targetMinBitrate (targets : Targets) : Option ℤ := do
  let tripled ← mul 32 targets.targetMaxBitrate 3
  div 32 tripled 4

/-- What the broadcast thread sets on its capturer. -/
def VideoCapturer.install (c : VideoCapturer) (targets : Targets) : Option VideoCapturer := do
  let c ← c.setFramerateLimit targets.targetFps
  pure (c.setFrameSizeLimit targets.targetFrameWidth targets.targetFrameHeight)

/-- The fields are `int`. -/
def EncoderSettings.IsInt32 (s : EncoderSettings) : Prop :=
  Fits 32 s.width ∧ Fits 32 s.height ∧ Fits 32 s.targetBitrate ∧ Fits 32 s.framerate

/-- None of the computations overflows or divides by zero, for a frame that is not adapted. -/
def Computable (c : VideoCapturer) (targets : Targets) (size : Size) : Prop :=
  (targetMinBitrate targets).isSome = true ∧
    ∃ c', c.install targets = some c' ∧ (c'.adaptedSize size size).isSome = true

/-! ## The settings and frames in range -/

/-- The server raises the limits. -/
def EncoderSettings.Raises (s : EncoderSettings) : Prop := maxBitsPerSecond < s.targetBitrate

/-- The server raises the frame size too. -/
def EncoderSettings.RaisesSize (s : EncoderSettings) : Prop :=
  s.Raises ∧ maxFrameHeight < s.height ∧ checkAspectRatio s.width s.height = .success

instance (s : EncoderSettings) : Decidable s.Raises := inferInstanceAs (Decidable (_ < _))

instance (s : EncoderSettings) : Decidable s.RaisesSize := inferInstanceAs (Decidable (_ ∧ _))

/-- Raised rates leave room for the factor and the two frames, and the products of the frame
with the frame size that is installed are in range. -/
structure SettingsInRange (s : EncoderSettings) (size : Size) : Prop where
  bitrate : s.Raises → 3 * s.targetBitrate < 2 ^ 31
  framerate : s.Raises → s.framerate + 2 < 2 ^ 31
  raisedSize : s.RaisesSize → CapsInRange size ⟨s.width, s.height⟩
  defaultSize : ¬ s.RaisesSize → 720 * size.width < 2 ^ 31

section

variable {c : VideoCapturer} {targets : Targets} {info : EncoderInfoResponse} {size : Size}

/-! ## The targets -/

/-- No target is below the policy, and without a raised bitrate there is nothing but the
policy. -/
structure Targets.OnlyRaised (targets : Targets) : Prop where
  bitrate : maxBitsPerSecond ≤ targets.targetMaxBitrate
  framerate : maxFps ≤ targets.targetFps
  width : maxFrameWidth ≤ targets.targetFrameWidth
  height : maxFrameHeight ≤ targets.targetFrameHeight
  policy : targets.targetMaxBitrate = maxBitsPerSecond →
    targets = ⟨maxBitsPerSecond, maxFps, maxFrameHeight, maxFrameWidth⟩

/-- The targets, one by one. -/
theorem selectTargets_some (info : EncoderInfoResponse) :
    selectTargets (some info) =
      { targetMaxBitrate :=
          if info.setting.Raises then info.setting.targetBitrate else maxBitsPerSecond
        targetFps :=
          if info.setting.Raises ∧ maxFps < info.setting.framerate then info.setting.framerate
          else maxFps
        targetFrameWidth :=
          if info.setting.RaisesSize then info.setting.width else maxFrameWidth
        targetFrameHeight :=
          if info.setting.RaisesSize then info.setting.height else maxFrameHeight } := by
  unfold selectTargets
  dsimp only
  by_cases hraises : info.setting.targetBitrate > maxBitsPerSecond
  · have hraises' : info.setting.Raises := hraises
    rw [if_pos hraises]
    by_cases hsize : info.setting.height > maxFrameHeight ∧
        checkAspectRatio info.setting.width info.setting.height = .success
    · have hsize' : info.setting.RaisesSize := ⟨hraises, hsize⟩
      rw [if_pos hsize]
      simp [hraises', hsize']
    · have hsize' : ¬ info.setting.RaisesSize := fun h => hsize h.2
      rw [if_neg hsize]
      simp [hraises', hsize']
  · have hraises' : ¬ info.setting.Raises := hraises
    have hsize' : ¬ info.setting.RaisesSize := fun h => hraises h.1
    rw [if_neg hraises]
    simp [hraises', hsize']

theorem targetMinBitrate_isSome (h : 0 ≤ targets.targetMaxBitrate) :
    (targetMinBitrate targets).isSome = true ↔ 3 * targets.targetMaxBitrate < 2 ^ 31 := by
  unfold targetMinBitrate mul
  have hproduct : 0 ≤ targets.targetMaxBitrate * 3 := by omega
  by_cases hfits : Fits 32 (targets.targetMaxBitrate * 3)
  · have hlt := (fits_32_of_nonneg hproduct).mp hfits
    rw [checked_of_fits hfits, Option.bind_eq_bind, Option.bind_some,
      div_of_pos hfits hproduct (by decide)]
    simp only [Option.isSome_some, true_iff]
    omega
  · rw [checked_of_not_fits hfits]
    rw [fits_32_of_nonneg hproduct] at hfits
    constructor
    · intro h
      cases h
    · intro hlt
      omega

/-- A framerate of at least 30 overflows only with the two frames that are added. -/
theorem setFramerateLimit_isSome {framerate : ℤ} (h : 0 ≤ framerate) :
    (c.setFramerateLimit framerate).isSome = true ↔ framerate + 2 < 2 ^ 31 := by
  unfold VideoCapturer.setFramerateLimit add
  have hsum : 0 ≤ framerate + 2 := by omega
  by_cases hfits : Fits 32 (framerate + 2)
  · have hlt := (fits_32_of_nonneg hsum).mp hfits
    rw [checked_of_fits hfits, Option.bind_eq_bind, Option.bind_some,
      div_of_pos (by decide) (by decide) (by omega)]
    simp only [Option.bind_some, Option.pure_def, Option.isSome_some, true_iff]
    omega
  · rw [checked_of_not_fits hfits]
    rw [fits_32_of_nonneg hsum] at hfits
    constructor
    · intro h
      cases h
    · intro hlt
      exact absurd hlt hfits

/-- The limits that are installed. -/
theorem install_eq_some {c' : VideoCapturer} (h : c.install targets = some c') :
    c'.limits = ⟨targets.targetFrameWidth, targets.targetFrameHeight⟩ := by
  unfold VideoCapturer.install at h
  obtain ⟨d, -, h⟩ := Option.bind_eq_some_iff.mp h
  rw [← Option.some.inj h]
  rfl

/-- The computations, for limits of positive sides. -/
theorem computable_iff (h : size.Accepted) (hint : size.IsInt32)
    (hbitrate : 0 ≤ targets.targetMaxBitrate) (hfps : 0 ≤ targets.targetFps)
    (hlimits : (⟨targets.targetFrameWidth, targets.targetFrameHeight⟩ : Size).Pos) :
    Computable c targets size ↔
      3 * targets.targetMaxBitrate < 2 ^ 31 ∧ targets.targetFps + 2 < 2 ^ 31 ∧
        CapsInRange size ⟨targets.targetFrameWidth, targets.targetFrameHeight⟩ := by
  unfold Computable
  rw [targetMinBitrate_isSome hbitrate, ← setFramerateLimit_isSome (c := c) hfps]
  constructor
  · rintro ⟨hrate, c', hinstall, hadapted⟩
    have hlimits' := install_eq_some hinstall
    obtain ⟨a, ha⟩ := Option.isSome_iff_exists.mp hadapted
    rw [adaptedSize_of_accepted h hint (hlimits' ▸ hlimits), hlimits'] at ha
    obtain ⟨d, hd, -⟩ := Option.bind_eq_some_iff.mp hinstall
    exact ⟨hrate, Option.isSome_iff_exists.mpr ⟨d, hd⟩, ha.1⟩
  · rintro ⟨hrate, hset, hrange⟩
    obtain ⟨d, hd⟩ := Option.isSome_iff_exists.mp hset
    have hinstall : c.install targets =
        some (d.setFrameSizeLimit targets.targetFrameWidth targets.targetFrameHeight) := by
      unfold VideoCapturer.install
      rw [hd]
      rfl
    constructor
    · exact hrate
    · have hadapted := (adaptedSize_of_accepted h hint
        (c := d.setFrameSizeLimit targets.targetFrameWidth targets.targetFrameHeight)
        hlimits).mpr ⟨hrange, rfl⟩
      exact ⟨_, hinstall, Option.isSome_iff_exists.mpr ⟨_, hadapted⟩⟩

/-- Raised rates are positive, and so is the frame size that is installed. -/
theorem selectTargets_pos (info : EncoderInfoResponse) :
    0 ≤ (selectTargets (some info)).targetMaxBitrate ∧
      0 ≤ (selectTargets (some info)).targetFps ∧
      (⟨(selectTargets (some info)).targetFrameWidth,
        (selectTargets (some info)).targetFrameHeight⟩ : Size).Pos := by
  have hmaxBits : maxBitsPerSecond = 2000000 := rfl
  have hmaxFps : maxFps = 30 := rfl
  have hmaxHeight : maxFrameHeight = 720 := rfl
  rw [selectTargets_some]
  dsimp only
  constructor
  · split
    · rename_i hraises
      have hlt : maxBitsPerSecond < info.setting.targetBitrate := hraises
      omega
    · decide
  · constructor
    · split
      · omega
      · decide
    · by_cases hsize : info.setting.RaisesSize
      · have haccepted := checkAspectRatio_eq_success.mp hsize.2.2
        have hheight := hsize.2.1
        rw [if_pos hsize, if_pos hsize]
        constructor
        · show 0 < info.setting.width
          omega
        · show 0 < info.setting.height
          omega
      · rw [if_neg hsize, if_neg hsize]
        constructor <;> decide

/-- The frame size that is installed is in range for a frame. -/
theorem capsInRange_selectTargets (h : size.Accepted) :
    CapsInRange size ⟨(selectTargets (some info)).targetFrameWidth,
        (selectTargets (some info)).targetFrameHeight⟩ ↔
      (info.setting.RaisesSize →
          CapsInRange size ⟨info.setting.width, info.setting.height⟩) ∧
        (¬ info.setting.RaisesSize → 720 * size.width < 2 ^ 31) := by
  rw [selectTargets_some]
  dsimp only
  by_cases hsize : info.setting.RaisesSize
  · rw [if_pos hsize, if_pos hsize]
    simp [hsize]
  · rw [if_neg hsize, if_neg hsize]
    simp only [hsize, false_implies, not_false_eq_true, true_implies, true_and]
    exact capsInRange_default h

/-- **Overflow.**  For settings and frames in range nothing overflows, and for all others
something does. -/
theorem computable_selectTargets_iff (c : VideoCapturer) (info : EncoderInfoResponse)
    (size : Size) (hint : size.IsInt32) (hwidth : 0 < size.width) (hheight : 0 < size.height)
    (haccepted : checkAspectRatio size.width size.height = .success) :
    Computable c (selectTargets (some info)) size ↔ SettingsInRange info.setting size := by
  have h := accepted_of_checkAspectRatio hwidth hheight haccepted
  obtain ⟨hbitrate, hfps, hlimits⟩ := selectTargets_pos info
  rw [computable_iff h hint hbitrate hfps hlimits, capsInRange_selectTargets h,
    selectTargets_some]
  dsimp only
  have hmaxBits : maxBitsPerSecond = 2000000 := rfl
  have hmaxFps : maxFps = 30 := rfl
  have hrates : 3 * (if info.setting.Raises then info.setting.targetBitrate
      else maxBitsPerSecond) < 2 ^ 31 ↔
        (info.setting.Raises → 3 * info.setting.targetBitrate < 2 ^ 31) := by
    split
    · rename_i hraises
      simp [hraises]
    · rename_i hraises
      simp [hraises, hmaxBits]
  have hframerates : (if info.setting.Raises ∧ maxFps < info.setting.framerate
      then info.setting.framerate else maxFps) + 2 < 2 ^ 31 ↔
        (info.setting.Raises → info.setting.framerate + 2 < 2 ^ 31) := by
    split
    · rename_i hraises
      simp [hraises.1]
    · rename_i hraises
      constructor
      · intro _ hraises'
        have hle : ¬ maxFps < info.setting.framerate := fun hlt => hraises ⟨hraises', hlt⟩
        omega
      · intro _
        rw [hmaxFps]
        decide
  rw [hrates, hframerates]
  constructor
  · rintro ⟨hrate, hframerate, hraised, hdefault⟩
    exact ⟨hrate, hframerate, hraised, hdefault⟩
  · intro hrange
    exact ⟨hrange.bitrate, hrange.framerate, hrange.raisedSize, hrange.defaultSize⟩

/-- Settings that raise everything, for frames of 1920 by 1080 at 60 frames. -/
def raisedSettings : EncoderInfoResponse :=
  ⟨"software", ⟨1920, 1080, 6000000, 60⟩⟩

theorem computable_selectTargets_iff_full_hd :
    Computable defaultCapturer (selectTargets (some raisedSettings)) ⟨1920, 1080⟩ ↔
      SettingsInRange raisedSettings.setting ⟨1920, 1080⟩ :=
  computable_selectTargets_iff defaultCapturer raisedSettings ⟨1920, 1080⟩
    ⟨by decide, by decide⟩ (by decide) (by decide) (by decide)

/-- A target of 800 Mbit/s overflows when it is tripled. -/
theorem targetMinBitrate_overflows :
    (⟨1280, 720, 800000000, 30⟩ : EncoderSettings).IsInt32 ∧ (⟨1280, 720⟩ : Size).IsInt32 ∧
      checkAspectRatio 1280 720 = .success ∧
      ¬ Computable defaultCapturer
        (selectTargets (some ⟨"software", ⟨1280, 720, 800000000, 30⟩⟩)) ⟨1280, 720⟩ := by
  constructor
  · exact ⟨by decide, by decide, by decide, by decide⟩
  · constructor
    · exact ⟨by decide, by decide⟩
    · constructor
      · decide
      · rintro ⟨hrate, -⟩
        exact absurd hrate (by decide)

/-! ## The policy as a lower bound -/

/-- Every target but the width is bounded by its own test. -/
theorem onlyRaised_of_width
    (hwidth : info.setting.RaisesSize → maxFrameWidth ≤ info.setting.width) :
    (selectTargets (some info)).OnlyRaised := by
  rw [selectTargets_some]
  by_cases hraises : info.setting.Raises
  · have hlt : maxBitsPerSecond < info.setting.targetBitrate := hraises
    constructor
    · show maxBitsPerSecond ≤ if info.setting.Raises then _ else _
      rw [if_pos hraises]
      omega
    · show maxFps ≤ if _ then _ else _
      split
      · omega
      · exact le_rfl
    · show maxFrameWidth ≤ if info.setting.RaisesSize then _ else _
      split
      · rename_i hsize
        exact hwidth hsize
      · exact le_rfl
    · show maxFrameHeight ≤ if info.setting.RaisesSize then _ else _
      split
      · rename_i hsize
        exact hsize.2.1.le
      · exact le_rfl
    · intro hequal
      have hbitrate : (if info.setting.Raises then info.setting.targetBitrate
          else maxBitsPerSecond) = maxBitsPerSecond := hequal
      rw [if_pos hraises] at hbitrate
      omega
  · have hsize : ¬ info.setting.RaisesSize := fun h => hraises h.1
    simp only [hraises, hsize, false_and, if_false]
    exact ⟨le_rfl, le_rfl, le_rfl, le_rfl, fun _ => rfl⟩

/-- **Only increases.**  The targets keep to the policy exactly when a frame size that is
taken over is at least as wide as the policy. -/
theorem onlyRaised_selectTargets_iff (info : Option EncoderInfoResponse) :
    (selectTargets info).OnlyRaised ↔
      ∀ response ∈ info, response.setting.RaisesSize →
        maxFrameWidth ≤ response.setting.width := by
  constructor
  · rintro h response rfl hsize
    have hwidth := h.width
    rw [selectTargets_some] at hwidth
    dsimp only at hwidth
    rwa [if_pos hsize] at hwidth
  · intro h
    rcases info with _ | info
    · exact ⟨le_rfl, le_rfl, le_rfl, le_rfl, fun _ => rfl⟩
    · exact onlyRaised_of_width (h info rfl)

/-- A square of 800 pixels is taken over, although the policy is 1280 pixels wide. -/
theorem selectTargets_square_too_narrow :
    (⟨800, 800, 3000000, 30⟩ : EncoderSettings).IsInt32 ∧
      ¬ (selectTargets (some ⟨"software", ⟨800, 800, 3000000, 30⟩⟩)).OnlyRaised := by
  constructor
  · exact ⟨by decide, by decide, by decide, by decide⟩
  · intro h
    exact absurd h.width (by decide)

end

end Caff
