/-
# The sizes of the frames that are sent

With the default limits a frame is scaled to an even size within them that has its aspect
ratio up to rounding.  The cap of the height runs behind the minimum, and takes the width of
some portrait frames below it.
-/
import Mathlib.Algebra.Order.Group.Abs
import Caffeine.VideoSize

namespace Caff

open MachineInt

/-- The limits of a capturer that has not been given others. -/
def defaultLimits : Size := ⟨maxFrameWidth, maxFrameHeight⟩

section

variable {size a : Size}

/-! ## The default limits -/

/-- The size the caps start from has no side below the minimum, and an accepted ratio. -/
theorem Raised.bounds (h : size.Accepted) (hraised : Raised size a) :
    360 ≤ a.width ∧ 360 ≤ a.height ∧ a.width ≤ 3 * a.height ∧ a.height ≤ 3 * a.width := by
  have hwidth := h.width_le
  have hheight := h.height_le
  have hminimum : minFrameDimension = 360 := rfl
  cases hraised with
  | landscape q horientation hsmall hfloor hceil hle hmax => dsimp only; omega
  | portrait q horientation hsmall hfloor hceil hle hmax => dsimp only; omega
  | kept hkeptWidth hkeptHeight => omega

/-- The default caps leave both sides at 240 or more. -/
theorem le_capped (hwidth : 360 ≤ a.width) (hheight : 360 ≤ a.height)
    (hwidthLe : a.width ≤ 3 * a.height) (hheightLe : a.height ≤ 3 * a.width) :
    240 ≤ ((a.heightCapped 720).widthCapped 1280).width ∧
      240 ≤ ((a.heightCapped 720).widthCapped 1280).height := by
  have hcapped : 240 ≤ (a.heightCapped 720).width ∧ 240 ≤ (a.heightCapped 720).height ∧
      (a.heightCapped 720).width ≤ 3 * (a.heightCapped 720).height := by
    unfold Size.heightCapped
    split
    · rename_i hcap
      constructor
      · exact (Int.le_ediv_iff_mul_le (by omega)).mpr (by omega)
      · constructor
        · show (240 : ℤ) ≤ 720
          decide
        · show a.width * 720 / a.height ≤ 3 * 720
          exact Int.ediv_le_of_le_mul (by omega) (by omega)
    · omega
  generalize a.heightCapped 720 = b at hcapped
  unfold Size.widthCapped
  split
  · rename_i hcap
    constructor
    · show (240 : ℤ) ≤ 1280
      decide
    · exact (Int.le_ediv_iff_mul_le (by omega)).mpr (by omega)
  · omega

/-- The three steps lose less than one unit of each side. -/
theorem distortion_exact (h : size.Accepted) :
    -(size.width + size.height) ≤ (size.exact size defaultLimits).distortion size ∧
      (size.exact size defaultLimits).distortion size ≤ size.width + size.height := by
  have hwidth := h.width_pos
  have hheight := h.height_pos
  have hraised := raised_of_accepted h
  show -(size.width + size.height) ≤
      (((size.raised size).heightCapped 720).widthCapped 1280).evened.distortion size ∧
    (((size.raised size).heightCapped 720).widthCapped 1280).evened.distortion size ≤
      size.width + size.height
  generalize size.raised size = a at hraised
  cases hraised with
  | landscape q horientation hsmall hfloor hceil hle hmax =>
      -- no cap applies
      have hcapped : ((⟨q, 360⟩ : Size).heightCapped 720).widthCapped 1280 = ⟨q, 360⟩ := by
        have hheightCap : (⟨q, 360⟩ : Size).heightCapped 720 = ⟨q, 360⟩ :=
          if_neg (show ¬ (360 : ℤ) > 720 by decide)
        rw [hheightCap]
        exact if_neg (show ¬ q > 1280 by omega)
      have heven := distortion_evened (a := ⟨q, 360⟩) h.nonneg
        (show -size.height ≤ q * size.height - 360 * size.width by linarith)
        (show q * size.height - 360 * size.width ≤ 0 by linarith)
      rw [hcapped]
      split at heven <;> omega
  | portrait q horientation hsmall hfloor hceil hle hmax =>
      -- the cap of the width does not apply
      have hheightCap := distortion_heightCapped (a := ⟨360, q⟩) h.nonneg
        (show (0 : ℤ) ≤ 720 by decide) (le_refl 0) hwidth.le
        (show -0 ≤ 360 * size.height - q * size.width by linarith)
        (show 360 * size.height - q * size.width ≤ size.width by linarith)
      have hle : ((⟨360, q⟩ : Size).heightCapped 720).width ≤ 360 := by
        unfold Size.heightCapped
        split
        · rename_i hcap
          have hcap' : 720 < q := hcap
          exact Int.ediv_le_of_le_mul (show 0 < q by omega)
            (show (360 : ℤ) * 720 ≤ 360 * q by omega)
        · exact le_refl 360
      generalize (⟨360, q⟩ : Size).heightCapped 720 = b at hheightCap hle
      have hcapped : b.widthCapped 1280 = b := if_neg (by omega)
      have heven := distortion_evened h.nonneg hheightCap.1 hheightCap.2
      rw [hcapped]
      split at heven <;> omega
  | kept hkeptWidth hkeptHeight =>
      have hstart : size.distortion size = 0 := by
        unfold Size.distortion
        rw [mul_comm, sub_self]
      have hheightCap := distortion_heightCapped (a := size) h.nonneg
        (show (0 : ℤ) ≤ 720 by decide) (le_refl 0) (le_refl 0) (by omega) (by omega)
      have hwidthCap := distortion_widthCapped h.nonneg (show (0 : ℤ) ≤ 1280 by decide)
        (show 0 ≤ 0 + size.height by omega) (le_refl 0) hheightCap.1 hheightCap.2
      generalize size.heightCapped 720 = b at hheightCap hwidthCap
      have heven := distortion_evened h.nonneg hwidthCap.1 hwidthCap.2
      by_cases hcap : b.width > 1280
      · -- a capped width is even already
        have hdvd : 2 ∣ (b.widthCapped 1280).width := by
          unfold Size.widthCapped
          rw [if_pos hcap]
          show (2 : ℤ) ∣ 1280
          decide
        rw [if_pos hdvd] at heven
        omega
      · have hcapped : b.widthCapped 1280 = b := if_neg hcap
        have heven' := distortion_evened h.nonneg hheightCap.1 hheightCap.2
        rw [hcapped]
        split at heven' <;> omega

/-- The default limits overflow for frames that are too wide. -/
theorem capsInRange_default (h : size.Accepted) :
    CapsInRange size defaultLimits ↔ 720 * size.width < 2 ^ 31 := by
  have hwidth := h.width_pos
  have hwidthLe := h.width_le
  show (if 720 < size.height then size.width * 720 < 2 ^ 31
    else if 1280 < size.width then size.height * 1280 < 2 ^ 31
    else size.width + 1 < 2 ^ 31 ∧ size.height + 1 < 2 ^ 31) ↔ 720 * size.width < 2 ^ 31
  split
  · omega
  · split
    · omega
    · omega

/-- What is asked of the target size of a frame: it is even, within 1280 by 720, and has the
aspect ratio of the frame up to rounding. -/
structure TargetOf (size a : Size) : Prop where
  even : 2 ∣ a.width ∧ 2 ∣ a.height
  two_le : 2 ≤ a.width ∧ 2 ≤ a.height
  within : a.width ≤ 1280 ∧ a.height ≤ 720
  ratio : |a.width * size.height - a.height * size.width| ≤ 2 * max size.width size.height

/-- The size that exact integers give is such a size. -/
theorem targetOf_exact (h : size.Accepted) : TargetOf size (size.exact size defaultLimits) := by
  have hwidth := h.width_pos
  have hheight := h.height_pos
  have hlimits : defaultLimits.Nonneg := ⟨by decide, by decide⟩
  obtain ⟨heven, hle⟩ := exact_even_le h.nonneg h.nonneg hlimits ⟨by decide, by decide⟩
  obtain ⟨hw, hh, hwLe, hhLe⟩ := (raised_of_accepted h).bounds h
  have hcapped := le_capped hw hh hwLe hhLe
  have hdistortion := distortion_exact h
  constructor
  · exact heven
  · show 2 ≤ ((((size.raised size).heightCapped 720).widthCapped 1280).width + 1) / 2 * 2 ∧
      2 ≤ ((((size.raised size).heightCapped 720).widthCapped 1280).height + 1) / 2 * 2
    omega
  · exact hle
  · unfold Size.distortion at hdistortion
    rw [abs_le]
    omega

/-- **The target size.**  With the default limits and no adaption, the size that `sendVideo`
computes for an accepted frame is even, positive, within the limits, and has the aspect ratio
of the frame up to rounding.  It is the one that exact integers give, and is computed unless
the product of the cap overflows. -/
theorem targetSize_of_accepted (c : VideoCapturer) (size : Size)
    (hlimits : c.limits = defaultLimits) (hwidth : 0 < size.width) (hheight : 0 < size.height)
    (haccepted : checkAspectRatio size.width size.height = .success) :
    (∀ a, c.adaptedSize size size = some a → TargetOf size a) ∧
      TargetOf size (size.exact size defaultLimits) ∧
      (size.IsInt32 → 720 * size.width < 2 ^ 31 →
        c.adaptedSize size size = some (size.exact size defaultLimits)) := by
  have h := accepted_of_checkAspectRatio hwidth hheight haccepted
  have hpos : c.limits.Pos := by
    rw [hlimits]
    constructor <;> decide
  constructor
  · intro a ha
    obtain ⟨-, -, rfl⟩ := (adaptedSize_eq_some_iff hwidth hheight h.nonneg hpos.nonneg).mp ha
    rw [hlimits]
    exact targetOf_exact h
  · constructor
    · exact targetOf_exact h
    · intro hint hrange
      rw [adaptedSize_of_accepted h hint hpos, hlimits, capsInRange_default h]
      exact ⟨hrange, rfl⟩

/-- A capturer with the default limits. -/
def defaultCapturer : VideoCapturer where
  lastTimestamp := 0
  interFrameLimit := 31250
  frameWidthMax := maxFrameWidth
  frameHeightMax := maxFrameHeight

theorem targetSize_of_accepted_full_hd :
    defaultCapturer.adaptedSize ⟨1920, 1080⟩ ⟨1920, 1080⟩ = some ⟨1280, 720⟩ ∧
      TargetOf ⟨1920, 1080⟩ ⟨1280, 720⟩ := by
  have htarget := targetSize_of_accepted defaultCapturer ⟨1920, 1080⟩ (by decide) (by decide)
    (by decide) (by decide)
  have hcomputed : defaultCapturer.adaptedSize ⟨1920, 1080⟩ ⟨1920, 1080⟩ = some ⟨1280, 720⟩ := by
    decide
  exact ⟨hcomputed, htarget.1 _ hcomputed⟩

/-! ## The minimum -/

/-- A frame that is at least as wide as it is high, or so little higher than wide that the
cap of the height leaves its width at the minimum, up to rounding. -/
def KeepsMinimum (size : Size) : Prop :=
  size.height ≤ size.width ∨
    (size.width < 360 ∧ 360 * size.height < 723 * size.width) ∨
    (360 ≤ size.width ∧ 359 * size.height ≤ 720 * size.width)

/-- The cap of the width does not bring the height below the minimum. -/
theorem le_widthCapped (hwidth : 360 ≤ a.width) (hheight : 360 ≤ a.height)
    (hle : a.width ≤ 3 * a.height) :
    360 ≤ (a.widthCapped 1280).width ∧ 360 ≤ (a.widthCapped 1280).height := by
  unfold Size.widthCapped
  split
  · constructor
    · show (360 : ℤ) ≤ 1280
      decide
    · exact (Int.le_ediv_iff_mul_le (by omega)).mpr (by omega)
  · omega

theorem le_evened_iff {x : ℤ} : 360 ≤ (x + 1) / 2 * 2 ↔ 359 ≤ x := by omega

/-- No cap applies to a wide frame whose height was raised. -/
theorem le_capped_landscape {q : ℤ} (hle : 360 ≤ q) (hmax : q ≤ 1080) :
    359 ≤ (((⟨q, 360⟩ : Size).heightCapped 720).widthCapped 1280).width ∧
      359 ≤ (((⟨q, 360⟩ : Size).heightCapped 720).widthCapped 1280).height := by
  have hheightCap : (⟨q, 360⟩ : Size).heightCapped 720 = ⟨q, 360⟩ :=
    if_neg (show ¬ (360 : ℤ) > 720 by decide)
  have hwidthCap : (⟨q, 360⟩ : Size).widthCapped 1280 = ⟨q, 360⟩ :=
    if_neg (show ¬ q > 1280 by omega)
  rw [hheightCap, hwidthCap]
  dsimp only
  omega

/-- The width of an upright frame that was raised stays at the minimum for heights up to 722. -/
theorem le_capped_portrait_iff {q : ℤ} (hle : 360 ≤ q) :
    359 ≤ (((⟨360, q⟩ : Size).heightCapped 720).widthCapped 1280).width ∧
      359 ≤ (((⟨360, q⟩ : Size).heightCapped 720).widthCapped 1280).height ↔ q ≤ 722 := by
  by_cases hcap : q > 720
  · have hheightCap : (⟨360, q⟩ : Size).heightCapped 720 = ⟨360 * 720 / q, 720⟩ := if_pos hcap
    have hlt : (360 : ℤ) * 720 / q < 360 := Int.ediv_lt_of_lt_mul (by omega) (by omega)
    have hwidthCap : (⟨360 * 720 / q, 720⟩ : Size).widthCapped 1280 = ⟨360 * 720 / q, 720⟩ :=
      if_neg (show ¬ (360 * 720 / q : ℤ) > 1280 by omega)
    have hle' : (359 : ℤ) ≤ 360 * 720 / q ↔ 359 * q ≤ 360 * 720 :=
      Int.le_ediv_iff_mul_le (by omega)
    rw [hheightCap, hwidthCap]
    dsimp only
    omega
  · have hheightCap : (⟨360, q⟩ : Size).heightCapped 720 = ⟨360, q⟩ := if_neg hcap
    have hwidthCap : (⟨360, q⟩ : Size).widthCapped 1280 = ⟨360, q⟩ :=
      if_neg (show ¬ (360 : ℤ) > 1280 by decide)
    rw [hheightCap, hwidthCap]
    dsimp only
    omega

/-- The quotient is at most 722 exactly if the height is less than 723 parts of the width. -/
theorem quotient_le_iff {q width height : ℤ} (hwidth : 0 < width)
    (hfloor : q * width ≤ height * 360) (hceil : height * 360 < (q + 1) * width) :
    q ≤ 722 ↔ 360 * height < 723 * width := by
  constructor
  · intro hq
    have hmul : (q + 1) * width ≤ 723 * width :=
      mul_le_mul_of_nonneg_right (by omega) hwidth.le
    omega
  · intro hq
    have hmul : q * width < 723 * width := by omega
    have hq' : q < 723 := lt_of_mul_lt_mul_right hmul hwidth.le
    omega

/-- The width of an upright frame that was kept is scaled with the height. -/
theorem le_capped_kept_iff (h : size.Accepted) (hwidth : 360 ≤ size.width)
    (hheight : 360 ≤ size.height) :
    359 ≤ ((size.heightCapped 720).widthCapped 1280).width ∧
        359 ≤ ((size.heightCapped 720).widthCapped 1280).height ↔
      size.height ≤ size.width ∨ 359 * size.height ≤ 720 * size.width := by
  have hwidthLe := h.width_le
  by_cases hcap : size.height > 720
  · have hheightCap : size.heightCapped 720 = ⟨size.width * 720 / size.height, 720⟩ := if_pos hcap
    have hle : ∀ x : ℤ, x ≤ size.width * 720 / size.height ↔
        x * size.height ≤ size.width * 720 :=
      fun x => Int.le_ediv_iff_mul_le h.height_pos
    rw [hheightCap]
    by_cases hland : size.height ≤ size.width
    · have hwidthCap := le_widthCapped (a := ⟨size.width * 720 / size.height, 720⟩)
        ((hle 360).mpr (by omega)) (show (360 : ℤ) ≤ 720 by decide)
        (Int.ediv_le_of_le_mul h.height_pos
          (show size.width * 720 ≤ 3 * 720 * size.height by omega))
      omega
    · have hlt : size.width * 720 / size.height < 720 :=
        Int.ediv_lt_of_lt_mul h.height_pos (by omega)
      have hwidthCap : (⟨size.width * 720 / size.height, 720⟩ : Size).widthCapped 1280 =
          ⟨size.width * 720 / size.height, 720⟩ :=
        if_neg (show ¬ size.width * 720 / size.height > 1280 by omega)
      have hle' := hle 359
      rw [hwidthCap]
      dsimp only
      omega
  · have hheightCap : size.heightCapped 720 = size := if_neg hcap
    have hwidthCap := le_widthCapped hwidth hheight hwidthLe
    rw [hheightCap]
    omega

/-- **The minimum behind the caps.** -/
theorem le_exact_iff (h : size.Accepted) :
    360 ≤ (size.exact size defaultLimits).width ∧ 360 ≤ (size.exact size defaultLimits).height ↔
      KeepsMinimum size := by
  have hwidth := h.width_pos
  have hraised := raised_of_accepted h
  have hminimum : minFrameDimension = 360 := rfl
  show 360 ≤ ((((size.raised size).heightCapped 720).widthCapped 1280).width + 1) / 2 * 2 ∧
    360 ≤ ((((size.raised size).heightCapped 720).widthCapped 1280).height + 1) / 2 * 2 ↔ _
  rw [le_evened_iff, le_evened_iff]
  unfold KeepsMinimum
  generalize size.raised size = a at hraised
  cases hraised with
  | landscape q horientation hsmall hfloor hceil hle hmax =>
      exact iff_of_true (le_capped_landscape hle hmax) (.inl horientation)
  | portrait q horientation hsmall hfloor hceil hle hmax =>
      rw [le_capped_portrait_iff hle, quotient_le_iff hwidth hfloor hceil]
      omega
  | kept hkeptWidth hkeptHeight =>
      rw [le_capped_kept_iff h hkeptWidth hkeptHeight]
      omega

/-- **The smaller side.**  With the default limits and no adaption it is computed, and at
the minimum, exactly for frames that are no wider than the product allows and that keep the
minimum through the caps. -/
theorem smaller_side_at_minimum_iff (c : VideoCapturer) (size : Size)
    (hlimits : c.limits = defaultLimits) (hint : size.IsInt32) (hwidth : 0 < size.width)
    (hheight : 0 < size.height)
    (haccepted : checkAspectRatio size.width size.height = .success) :
    (∃ a, c.adaptedSize size size = some a ∧ minFrameDimension ≤ min a.width a.height) ↔
      720 * size.width < 2 ^ 31 ∧ KeepsMinimum size := by
  have h := accepted_of_checkAspectRatio hwidth hheight haccepted
  have hpos : c.limits.Pos := by
    rw [hlimits]
    constructor <;> decide
  simp only [adaptedSize_of_accepted h hint hpos, hlimits, capsInRange_default h,
    ← le_exact_iff h, le_min_iff]
  constructor
  · rintro ⟨a, ⟨hrange, rfl⟩, hle⟩
    exact ⟨hrange, hle⟩
  · rintro ⟨hrange, hle⟩
    exact ⟨_, ⟨hrange, rfl⟩, hle⟩

theorem smaller_side_at_minimum_iff_square :
    (∃ a, defaultCapturer.adaptedSize ⟨300, 300⟩ ⟨300, 300⟩ = some a ∧
        minFrameDimension ≤ min a.width a.height) ↔
      720 * (300 : ℤ) < 2 ^ 31 ∧ KeepsMinimum ⟨300, 300⟩ :=
  smaller_side_at_minimum_iff defaultCapturer ⟨300, 300⟩ (by decide)
    ⟨by decide, by decide⟩ (by decide) (by decide) (by decide)

/-- A frame of 360 by 1080 is scaled to 240 by 720. -/
theorem smaller_side_below_minimum :
    checkAspectRatio 360 1080 = .success ∧ defaultCapturer.limits = defaultLimits ∧
      defaultCapturer.adaptedSize ⟨360, 1080⟩ ⟨360, 1080⟩ = some ⟨240, 720⟩ ∧
      ¬ minFrameDimension ≤ min 240 720 := by
  decide

end

end Caff
