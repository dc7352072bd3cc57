/-
# The size of a video frame

The three scaling steps of `sendVideo` keep the aspect ratio up to rounding, and the sizes
they end at are even and within the limits.  The minimum of 360 is enforced before the
caps, and the cap of the height can undo it for portrait frames.  The unscaled buffer is
chosen by the heights alone, so a frame whose width alone is changed goes out as it came.
-/
import Mathlib.Tactic.Linarith
import Caffeine.VideoCapturer

namespace Caff

open MachineInt

/-! ## Accepted sizes -/

theorem checkAspectRatio_eq_success {width height : ℤ} :
    checkAspectRatio width height = .success ↔ width ≤ 3 * height ∧ height ≤ 3 * width := by
  unfold checkAspectRatio isRatioGreater isRatioLess maxAspectWidth maxAspectHeight
    minAspectWidth minAspectHeight
  by_cases hwide : width * 1 > 3 * height
  · simp only [hwide, decide_true, if_true]
    constructor
    · intro h
      cases h
    · rintro ⟨h, -⟩
      omega
  · by_cases hnarrow : width * 3 < 1 * height
    · simp only [hwide, hnarrow, decide_true, decide_false, if_true, Bool.false_eq_true, if_false]
      constructor
      · intro h
        cases h
      · rintro ⟨-, h⟩
        omega
    · simp only [hwide, hnarrow, decide_false, Bool.false_eq_true, if_false]
      constructor
      · intro _
        omega
      · intro _
        trivial

/-- A size `checkAspectRatio` accepts, of positive sides. -/
structure Size.Accepted (size : Size) : Prop where
  width_pos : 0 < size.width
  height_pos : 0 < size.height
  width_le : size.width ≤ 3 * size.height
  height_le : size.height ≤ 3 * size.width

theorem accepted_of_checkAspectRatio {size : Size} (hwidth : 0 < size.width)
    (hheight : 0 < size.height) (h : checkAspectRatio size.width size.height = .success) :
    size.Accepted where
  width_pos := hwidth
  height_pos := hheight
  width_le := (checkAspectRatio_eq_success.mp h).1
  height_le := (checkAspectRatio_eq_success.mp h).2

theorem Size.Accepted.nonneg {size : Size} (h : size.Accepted) : size.Nonneg :=
  ⟨h.width_pos.le, h.height_pos.le⟩

/-- How far a size is from the aspect ratio of another. -/
def Size.distortion (a size : Size) : ℤ := a.width * size.height - a.height * size.width

section

variable {size a limits : Size} {lo hi limit : ℤ}

/-! ## One scaling step -/

/-- A side that is scaled down with the other loses less than one unit. -/
theorem scaled_distortion {s t w h : ℤ} (ht : 0 < t) (hlimit : 0 ≤ limit) (hle : limit ≤ t)
    (hlo : 0 ≤ lo) (hhi : 0 ≤ hi) (hh : 0 ≤ h) (hlower : -lo ≤ s * h - t * w)
    (hupper : s * h - t * w ≤ hi) :
    -(lo + h) ≤ s * limit / t * h - limit * w ∧ s * limit / t * h - limit * w ≤ hi := by
  have hfloor : s * limit / t * t ≤ s * limit := Int.ediv_mul_le _ ht.ne'
  have hceil : s * limit < (s * limit / t + 1) * t := Int.lt_ediv_add_one_mul_self _ ht
  generalize s * limit / t = q at hfloor hceil ⊢
  have hfloor' : q * t * h ≤ s * limit * h := mul_le_mul_of_nonneg_right hfloor hh
  have hceil' : s * limit * h ≤ (q + 1) * t * h := mul_le_mul_of_nonneg_right hceil.le hh
  have hmid : limit * (s * h - t * w) ≤ t * hi :=
    calc limit * (s * h - t * w) ≤ limit * hi := mul_le_mul_of_nonneg_left hupper hlimit
      _ ≤ t * hi := mul_le_mul_of_nonneg_right hle hhi
  have hmid' : -(t * lo) ≤ limit * (s * h - t * w) := by
    have hscaled : limit * -lo ≤ limit * (s * h - t * w) :=
      mul_le_mul_of_nonneg_left hlower hlimit
    have hwiden : limit * lo ≤ t * lo := mul_le_mul_of_nonneg_right hle hlo
    linarith
  constructor
  · apply le_of_mul_le_mul_left _ ht
    linarith
  · apply le_of_mul_le_mul_left _ ht
    linarith

theorem distortion_heightCapped (hsize : size.Nonneg) (hlimit : 0 ≤ limit) (hlo : 0 ≤ lo)
    (hhi : 0 ≤ hi) (hlower : -lo ≤ a.distortion size) (hupper : a.distortion size ≤ hi) :
    -(lo + size.height) ≤ (a.heightCapped limit).distortion size ∧
      (a.heightCapped limit).distortion size ≤ hi := by
  have hheight := hsize.2
  unfold Size.heightCapped
  split
  · rename_i hcap
    unfold Size.distortion at hlower hupper ⊢
    exact scaled_distortion (by omega) hlimit (by omega) hlo hhi hheight hlower hupper
  · constructor
    · omega
    · exact hupper

theorem distortion_widthCapped (hsize : size.Nonneg) (hlimit : 0 ≤ limit) (hlo : 0 ≤ lo)
    (hhi : 0 ≤ hi) (hlower : -lo ≤ a.distortion size) (hupper : a.distortion size ≤ hi) :
    -lo ≤ (a.widthCapped limit).distortion size ∧
      (a.widthCapped limit).distortion size ≤ hi + size.width := by
  have hwidth := hsize.1
  unfold Size.widthCapped
  split
  · rename_i hcap
    unfold Size.distortion at hlower hupper ⊢
    have h := scaled_distortion (show 0 < a.width by omega) hlimit (by omega) hhi hlo hwidth
      (show -hi ≤ a.height * size.width - a.width * size.height by omega) (by omega)
    show -lo ≤ limit * size.height - a.height * limit / a.width * size.width ∧
      limit * size.height - a.height * limit / a.width * size.width ≤ hi + size.width
    omega
  · constructor
    · exact hlower
    · omega

/-- Rounding up adds at most one unit to each side. -/
theorem distortion_evened (hsize : size.Nonneg) (hlower : -lo ≤ a.distortion size)
    (hupper : a.distortion size ≤ hi) :
    -(lo + size.width) ≤ a.evened.distortion size ∧
      a.evened.distortion size ≤ hi + if 2 ∣ a.width then 0 else size.height := by
  have hwidth := hsize.1
  have hheight := hsize.2
  have hx : (a.width + 1) / 2 * 2 = a.width + if 2 ∣ a.width then 0 else 1 := by
    split <;> omega
  have hy : ∃ d, (d = 0 ∨ d = 1) ∧ (a.height + 1) / 2 * 2 = a.height + d := by
    rcases Int.emod_two_eq_zero_or_one a.height with h | h
    · exact ⟨0, by omega, by omega⟩
    · exact ⟨1, by omega, by omega⟩
  obtain ⟨d, hd, hy⟩ := hy
  unfold Size.distortion Size.evened at *
  dsimp only
  rw [hx, hy]
  rcases hd with rfl | rfl
  · split
    · constructor <;> linarith
    · constructor <;> linarith
  · split
    · constructor <;> linarith
    · constructor <;> linarith

/-! ## The bounds -/

/-- The cap brings the height to at most the limit. -/
theorem heightCapped_height_le : (a.heightCapped limit).height ≤ limit := by
  unfold Size.heightCapped
  split
  · exact le_refl limit
  · omega

theorem widthCapped_width_le : (a.widthCapped limit).width ≤ limit := by
  unfold Size.widthCapped
  split
  · exact le_refl limit
  · omega

/-- Capping the width does not raise the height. -/
theorem widthCapped_height_le (ha : a.Nonneg) (hlimit : 0 ≤ limit) :
    (a.widthCapped limit).height ≤ a.height := by
  unfold Size.widthCapped
  split
  · rename_i hcap
    show a.height * limit / a.width ≤ a.height
    have hpos : 0 < a.width := by omega
    have hle : a.height * limit ≤ a.height * a.width :=
      mul_le_mul_of_nonneg_left (by omega) ha.2
    exact Int.ediv_le_of_le_mul hpos hle
  · exact le_refl a.height

/-- **The computed size is even and within even limits.** -/
theorem exact_even_le (hsize : size.Nonneg) (ha : a.Nonneg) (hlimits : limits.Nonneg)
    (heven : 2 ∣ limits.width ∧ 2 ∣ limits.height) :
    (2 ∣ (size.exact a limits).width ∧ 2 ∣ (size.exact a limits).height) ∧
      (size.exact a limits).width ≤ limits.width ∧
      (size.exact a limits).height ≤ limits.height := by
  have hraised : (size.raised a).Nonneg := Size.nonneg_raised hsize ha
  have hcapped : ((size.raised a).heightCapped limits.height).Nonneg :=
    Size.nonneg_heightCapped hlimits.2 hraised
  have hwidth : (((size.raised a).heightCapped limits.height).widthCapped limits.width).width ≤
      limits.width := widthCapped_width_le
  have hheight := widthCapped_height_le hcapped hlimits.1
  have hheight' : ((size.raised a).heightCapped limits.height).height ≤ limits.height :=
    heightCapped_height_le
  unfold Size.exact Size.evened
  dsimp only
  omega

/-! ## Frames that are not adapted

The adapter is disabled and returns the size it is given. -/

/-- Raised to the minimum, or not: the size the caps start from. -/
inductive Raised (size : Size) : Size → Prop
  | landscape (q : ℤ) (horientation : size.height ≤ size.width)
      (hsmall : size.height < minFrameDimension) (hfloor : q * size.height ≤ size.width * 360)
      (hceil : size.width * 360 < (q + 1) * size.height) (hle : 360 ≤ q) (hmax : q ≤ 1080) :
      Raised size ⟨q, 360⟩
  | portrait (q : ℤ) (horientation : size.width < size.height)
      (hsmall : size.width < minFrameDimension) (hfloor : q * size.width ≤ size.height * 360)
      (hceil : size.height * 360 < (q + 1) * size.width) (hle : 360 ≤ q) (hmax : q ≤ 1080) :
      Raised size ⟨360, q⟩
  | kept (hwidth : minFrameDimension ≤ size.width) (hheight : minFrameDimension ≤ size.height) :
      Raised size size

/-- The longer side, scaled along with the shorter one. -/
theorem scaled_bounds {s t : ℤ} (ht : 0 < t) (hle : t ≤ s) (hmax : s ≤ 3 * t) :
    360 ≤ s * 360 / t ∧ s * 360 / t ≤ 1080 := by
  constructor
  · exact (Int.le_ediv_iff_mul_le ht).mpr (by omega)
  · exact Int.ediv_le_of_le_mul ht (by omega)

theorem raised_of_accepted (h : size.Accepted) : Raised size (size.raised size) := by
  have hwidth := h.width_pos
  have hheight := h.height_pos
  unfold Size.raised
  split
  · rename_i hland
    have hbounds := scaled_bounds hheight hland.1 h.width_le
    exact .landscape _ hland.1 hland.2 (Int.ediv_mul_le _ hheight.ne')
      (Int.lt_ediv_add_one_mul_self _ hheight) hbounds.1 hbounds.2
  · split
    · rename_i hport
      have hbounds := scaled_bounds hwidth hport.1.le h.height_le
      exact .portrait _ hport.1 hport.2 (Int.ediv_mul_le _ hwidth.ne')
        (Int.lt_ediv_add_one_mul_self _ hwidth) hbounds.1 hbounds.2
    · rename_i hland hport
      exact .kept (by omega) (by omega)

/-- Both sides are positive. -/
def Size.Pos (size : Size) : Prop := 0 < size.width ∧ 0 < size.height

theorem Size.Pos.nonneg (h : a.Pos) : a.Nonneg := ⟨h.1.le, h.2.le⟩

/-- Both sides are `int32_t`. -/
def Size.IsInt32 (size : Size) : Prop := Fits 32 size.width ∧ Fits 32 size.height

/-- The products the caps evaluate, and the sums where no cap applies, are in range. -/
def CapsInRange (size limits : Size) : Prop :=
  if limits.height < size.height then size.width * limits.height < 2 ^ 31
  else if limits.width < size.width then size.height * limits.width < 2 ^ 31
  else size.width + 1 < 2 ^ 31 ∧ size.height + 1 < 2 ^ 31

instance (size limits : Size) : Decidable (CapsInRange size limits) := by
  unfold CapsInRange
  infer_instance

theorem fits_32_of_nonneg {x : ℤ} (hx : 0 ≤ x) : Fits 32 x ↔ x < 2 ^ 31 := by
  rw [fits_32]
  constructor
  · intro h
    exact h.2
  · intro h
    constructor
    · omega
    · exact h

/-- A side that is scaled down stays below its old length. -/
theorem scaled_lt {s t : ℤ} (hs : 0 < s) (ht : 0 < t) (hlt : limit < t) : s * limit / t < s := by
  apply Int.ediv_lt_of_lt_mul ht
  exact mul_lt_mul_of_pos_left hlt hs

/-- The cap of the width and the rounding: a cap leaves room for the rounding. -/
theorem widthFits_iff (hwidth : 0 ≤ a.width) (hheight : 0 < a.height)
    (hwidth32 : a.width < 2 ^ 31) (hheight32 : a.height < 2 ^ 31) (hlimit : 0 < limit) :
    ((limit < a.width → Fits 32 (a.height * limit)) ∧
        Fits 32 ((a.widthCapped limit).width + 1) ∧
        Fits 32 ((a.widthCapped limit).height + 1)) ↔
      if limit < a.width then a.height * limit < 2 ^ 31
      else a.width + 1 < 2 ^ 31 ∧ a.height + 1 < 2 ^ 31 := by
  by_cases hcap : limit < a.width
  · have hcapped : a.widthCapped limit = ⟨limit, a.height * limit / a.width⟩ := if_pos hcap
    have hproduct : 0 ≤ a.height * limit := mul_nonneg hheight.le hlimit.le
    have hlt : a.height * limit / a.width < a.height := scaled_lt hheight (by omega) hcap
    have hnonneg : 0 ≤ a.height * limit / a.width := Int.ediv_nonneg hproduct hwidth
    rw [if_pos hcap, hcapped]
    constructor
    · intro h
      exact (fits_32_of_nonneg hproduct).mp (h.1 hcap)
    · intro h
      constructor
      · intro _
        exact (fits_32_of_nonneg hproduct).mpr h
      · constructor
        · apply (fits_32_of_nonneg (add_nonneg hlimit.le (by decide))).mpr
          show limit + 1 < 2 ^ 31
          omega
        · apply (fits_32_of_nonneg (add_nonneg hnonneg (by decide))).mpr
          show a.height * limit / a.width + 1 < 2 ^ 31
          omega
  · have hcapped : a.widthCapped limit = a := if_neg hcap
    have hevenWidth : 0 ≤ a.width + 1 := by omega
    have hevenHeight : 0 ≤ a.height + 1 := by omega
    rw [if_neg hcap, hcapped, fits_32_of_nonneg hevenWidth, fits_32_of_nonneg hevenHeight]
    constructor
    · intro h
      exact h.2
    · intro h
      constructor
      · intro hlt
        exact absurd hlt hcap
      · exact h

theorem capsFit_iff_widthFits :
    CapsFit a limits ↔
      (limits.height < a.height → Fits 32 (a.width * limits.height)) ∧
        (limits.width < (a.heightCapped limits.height).width →
          Fits 32 ((a.heightCapped limits.height).height * limits.width)) ∧
        Fits 32 (((a.heightCapped limits.height).widthCapped limits.width).width + 1) ∧
        Fits 32 (((a.heightCapped limits.height).widthCapped limits.width).height + 1) := by
  constructor
  · intro h
    exact ⟨h.height, h.width, h.evenWidth, h.evenHeight⟩
  · rintro ⟨hheight, hwidth, hevenWidth, hevenHeight⟩
    exact ⟨hheight, hwidth, hevenWidth, hevenHeight⟩

/-- **Where the caps overflow.**  Where both caps apply, the second product is at most the
first. -/
theorem capsFit_iff (ha : a.Pos) (hint : a.IsInt32) (hlimits : limits.Pos) :
    CapsFit a limits ↔ CapsInRange a limits := by
  obtain ⟨hwidth, hheight⟩ := ha
  obtain ⟨hlimitWidth, hlimitHeight⟩ := hlimits
  have hwidth32 := (fits_32_of_nonneg hwidth.le).mp hint.1
  have hheight32 := (fits_32_of_nonneg hheight.le).mp hint.2
  rw [capsFit_iff_widthFits]
  unfold CapsInRange
  by_cases hcap : limits.height < a.height
  · have hcapped : a.heightCapped limits.height =
        ⟨a.width * limits.height / a.height, limits.height⟩ := if_pos hcap
    have hproduct : 0 ≤ a.width * limits.height := mul_nonneg hwidth.le hlimitHeight.le
    have hlt : a.width * limits.height / a.height < a.width := scaled_lt hwidth hheight hcap
    have hnonneg : 0 ≤ a.width * limits.height / a.height := Int.ediv_nonneg hproduct hheight.le
    have hfloor : a.width * limits.height / a.height * a.height ≤ a.width * limits.height :=
      Int.ediv_mul_le _ hheight.ne'
    have hlt32 : a.width * limits.height / a.height < 2 ^ 31 := by omega
    have hlimit32 : limits.height < 2 ^ 31 := by omega
    rw [if_pos hcap, hcapped,
      widthFits_iff (a := ⟨_, _⟩) hnonneg hlimitHeight hlt32 hlimit32 hlimitWidth]
    generalize a.width * limits.height / a.height = q at hlt hnonneg hfloor ⊢
    constructor
    · intro h
      exact (fits_32_of_nonneg hproduct).mp (h.1 hcap)
    · intro h
      constructor
      · intro _
        exact (fits_32_of_nonneg hproduct).mpr h
      · split
        · rename_i hwide
          calc limits.height * limits.width
              ≤ limits.height * q := mul_le_mul_of_nonneg_left hwide.le hlimitHeight.le
            _ ≤ a.height * q := mul_le_mul_of_nonneg_right hcap.le hnonneg
            _ ≤ a.width * limits.height := by linarith
            _ < 2 ^ 31 := h
        · constructor
          · show q + 1 < 2 ^ 31
            omega
          · show limits.height + 1 < 2 ^ 31
            omega
  · have hcapped : a.heightCapped limits.height = a := if_neg hcap
    rw [if_neg hcap, hcapped, widthFits_iff hwidth.le hheight hwidth32 hheight32 hlimitWidth]
    constructor
    · intro h
      exact h.2
    · intro h
      constructor
      · intro hlt
        exact absurd hlt hcap
      · exact h

/-- Small sizes do not overflow. -/
theorem capsInRange_of_small (ha : a.Pos) (hlimits : limits.Pos) (hwidth : a.width ≤ 1080)
    (hheight : a.height ≤ 1080) : CapsInRange a limits := by
  obtain ⟨hwidthPos, hheightPos⟩ := ha
  obtain ⟨hlimitWidth, hlimitHeight⟩ := hlimits
  unfold CapsInRange
  split
  · rename_i hcap
    have hle : a.width * limits.height ≤ 1080 * 1080 :=
      mul_le_mul hwidth (by omega) hlimitHeight.le (by decide)
    omega
  · split
    · rename_i hcap
      have hle : a.height * limits.width ≤ 1080 * 1080 :=
        mul_le_mul hheight (by omega) hlimitWidth.le (by decide)
      omega
    · omega

/-- **The size computation of a frame that is not adapted.**  A frame that is raised to the
minimum is small. -/
theorem adaptedSize_of_accepted {c : VideoCapturer} {result : Size} (h : size.Accepted)
    (hint : size.IsInt32) (hlimits : c.limits.Pos) :
    c.adaptedSize size size = some result ↔
      CapsInRange size c.limits ∧ size.exact size c.limits = result := by
  have hwidth := h.width_pos
  have hheight := h.height_pos
  have hwidthLe := h.width_le
  have hheightLe := h.height_le
  rw [adaptedSize_eq_some_iff hwidth hheight h.nonneg hlimits.nonneg]
  have hraise : RaiseFits size size := by
    unfold RaiseFits minFrameDimension
    simp only [fits_32]
    omega
  have hcaps : CapsFit (size.raised size) c.limits ↔ CapsInRange size c.limits := by
    have hraised := raised_of_accepted h
    generalize size.raised size = a at hraised
    have hsmall : (size.width ≤ 1080 ∧ size.height ≤ 1080 ∧ a.Pos ∧ a.width ≤ 1080 ∧
        a.height ≤ 1080 → (CapsFit a c.limits ↔ CapsInRange size c.limits)) := by
      rintro ⟨hsizeWidth, hsizeHeight, ha, haWidth, haHeight⟩
      obtain ⟨haWidthPos, haHeightPos⟩ := ha
      have haInt : a.IsInt32 := by
        unfold Size.IsInt32
        simp only [fits_32]
        omega
      rw [capsFit_iff ⟨haWidthPos, haHeightPos⟩ haInt hlimits]
      constructor
      · intro _
        exact capsInRange_of_small ⟨hwidth, hheight⟩ hlimits hsizeWidth hsizeHeight
      · intro _
        exact capsInRange_of_small ⟨haWidthPos, haHeightPos⟩ hlimits haWidth haHeight
    unfold Size.Pos at hsmall
    have hminimum : minFrameDimension = 360 := rfl
    cases hraised with
    | landscape q horientation hsmall' hfloor hceil hle hmax =>
        apply hsmall
        dsimp only
        omega
    | portrait q horientation hsmall' hfloor hceil hle hmax =>
        apply hsmall
        dsimp only
        omega
    | kept hkeptWidth hkeptHeight => exact capsFit_iff ⟨hwidth, hheight⟩ hint hlimits
  rw [hcaps]
  constructor
  · rintro ⟨-, hrange, hresult⟩
    exact ⟨hrange, hresult⟩
  · rintro ⟨hrange, hresult⟩
    exact ⟨hraise, hrange, hresult⟩

end

end Caff
