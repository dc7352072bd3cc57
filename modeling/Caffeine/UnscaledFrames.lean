/-
# Frames that are sent unscaled

`sendVideo` scales a frame where the computed height is not that of the frame, and sends it
as it came otherwise.  The computed width can differ all the same: an odd width is rounded
up, and a frame that is a little too wide can lose less than one line with the cap of its
width.
-/
import Caffeine.FrameSizes

namespace Caff

open MachineInt

/-! ## The kinds of frames -/

/-- `side` is even, and `x` is `side` or rounds up to it. -/
def RoundsUpTo (x side : ℤ) : Prop := 2 ∣ side ∧ side - 1 ≤ x ∧ x ≤ side

/-- The caps take the size `a` to the height of the frame, but not to its width. -/
def HeightOnly (size a limits : Size) : Prop :=
  if a.height ≤ limits.height then
    if a.width ≤ limits.width then
      RoundsUpTo a.height size.height ∧ ¬ RoundsUpTo a.width size.width
    else
      limits.width ≠ size.width ∧ 2 ∣ size.height ∧
        (size.height - 1) * a.width ≤ a.height * limits.width ∧
        a.height * limits.width < (size.height + 1) * a.width
  else if a.width * limits.height < (limits.width + 1) * a.height then
    limits.height = size.height ∧
      ¬ (2 ∣ size.width ∧ (size.width - 1) * a.height ≤ a.width * limits.height ∧
        a.width * limits.height < (size.width + 1) * a.height)
  else
    limits.width ≠ size.width ∧ 2 ∣ size.height ∧
      (size.height - 1) * (a.width * limits.height / a.height) ≤ limits.height * limits.width ∧
      limits.height * limits.width < (size.height + 1) * (a.width * limits.height / a.height)

/-- For a size no larger than the frame: it is too wide by less than one line, or within the
limits, of the height of the frame and of another width. -/
def LosesWidth (size a limits : Size) : Prop :=
  2 ∣ size.height ∧ a.height ≤ limits.height ∧
    (limits.width < a.width ∧ (size.height - 1) * a.width ≤ a.height * limits.width ∨
      a.width ≤ limits.width ∧ size.height ≤ a.height + 1 ∧
        ¬ (2 ∣ size.width ∧ size.width ≤ a.width + 1))

/-- The frames whose width alone is changed.  A frame that is raised to the minimum starts
from that size. -/
def OnlyWidthChanges (size adapted limits : Size) : Prop :=
  if size.height ≤ size.width ∧ adapted.height < 360 then
    HeightOnly size ⟨size.width * 360 / size.height, 360⟩ limits
  else if size.width < size.height ∧ adapted.width < 360 then
    HeightOnly size ⟨360, size.height * 360 / size.width⟩ limits
  else LosesWidth size adapted limits

instance (x side : ℤ) : Decidable (RoundsUpTo x side) := by
  unfold RoundsUpTo
  infer_instance

instance (size a limits : Size) : Decidable (HeightOnly size a limits) := by
  unfold HeightOnly
  infer_instance

instance (size a limits : Size) : Decidable (LosesWidth size a limits) := by
  unfold LosesWidth
  infer_instance

instance (size adapted limits : Size) : Decidable (OnlyWidthChanges size adapted limits) := by
  unfold OnlyWidthChanges
  infer_instance

section

variable {size a limits adapted : Size}

/-! ## What the caps and the rounding come to -/

theorem even_eq_iff {x side : ℤ} : (x + 1) / 2 * 2 = side ↔ RoundsUpTo x side := by
  unfold RoundsUpTo
  omega

/-- A quotient that is rounded up to even, without the division. -/
theorem even_ediv_eq_iff {s t side : ℤ} (ht : 0 < t) :
    (s / t + 1) / 2 * 2 = side ↔ 2 ∣ side ∧ (side - 1) * t ≤ s ∧ s < (side + 1) * t := by
  have hle : side - 1 ≤ s / t ↔ (side - 1) * t ≤ s := Int.le_ediv_iff_mul_le ht
  have hlt : s / t < side + 1 ↔ s < (side + 1) * t := Int.ediv_lt_iff_lt_mul ht
  rw [even_eq_iff, RoundsUpTo]
  omega

/-- **The computed size has the height of the frame and another width.** -/
theorem heightOnly_iff (ha : a.Pos) (hlimits : limits.Pos) (heven : 2 ∣ limits.width)
    (heven' : 2 ∣ limits.height) :
    (((a.heightCapped limits.height).widthCapped limits.width).evened.height = size.height ∧
        ((a.heightCapped limits.height).widthCapped limits.width).evened.width ≠ size.width) ↔
      HeightOnly size a limits := by
  obtain ⟨hwidth, hheight⟩ := ha
  obtain ⟨hlimitWidth, hlimitHeight⟩ := hlimits
  have hevenWidth : (limits.width + 1) / 2 * 2 = limits.width := by omega
  have hevenHeight : (limits.height + 1) / 2 * 2 = limits.height := by omega
  unfold HeightOnly Size.evened
  by_cases hcap : a.height ≤ limits.height
  · have hheightCap : a.heightCapped limits.height = a := if_neg (by omega)
    rw [hheightCap, if_pos hcap]
    by_cases hcap' : a.width ≤ limits.width
    · have hwidthCap : a.widthCapped limits.width = a := if_neg (by omega)
      rw [hwidthCap, if_pos hcap', ← even_eq_iff, ← even_eq_iff]
    · have hwidthCap : a.widthCapped limits.width =
          ⟨limits.width, a.height * limits.width / a.width⟩ := if_pos (by omega)
      rw [hwidthCap, if_neg hcap', ← even_ediv_eq_iff hwidth]
      dsimp only
      rw [hevenWidth]
      exact and_comm
  · have hheightCap : a.heightCapped limits.height =
        ⟨a.width * limits.height / a.height, limits.height⟩ := if_pos (by omega)
    have hfits : a.width * limits.height / a.height < limits.width + 1 ↔
        a.width * limits.height < (limits.width + 1) * a.height := Int.ediv_lt_iff_lt_mul hheight
    rw [hheightCap, if_neg hcap]
    by_cases hcap' : a.width * limits.height < (limits.width + 1) * a.height
    · have hwidthCap :
          (⟨a.width * limits.height / a.height, limits.height⟩ : Size).widthCapped limits.width =
            ⟨a.width * limits.height / a.height, limits.height⟩ := by
        apply if_neg
        show ¬ a.width * limits.height / a.height > limits.width
        omega
      rw [hwidthCap, if_pos hcap', ← even_ediv_eq_iff hheight]
      dsimp only
      rw [hevenHeight]
    · have hwide : a.width * limits.height / a.height > limits.width := by omega
      have hwidthCap :
          (⟨a.width * limits.height / a.height, limits.height⟩ : Size).widthCapped limits.width =
            ⟨limits.width, limits.height * limits.width /
              (a.width * limits.height / a.height)⟩ := if_pos hwide
      rw [hwidthCap, if_neg hcap', ← even_ediv_eq_iff (by omega)]
      dsimp only
      rw [hevenWidth]
      exact and_comm

/-- A size that is no larger than the frame keeps its height only where no line is lost. -/
theorem heightOnly_iff_losesWidth (ha : a.Pos) (hlimits : limits.Pos)
    (hwidthLe : a.width ≤ size.width) (hheightLe : a.height ≤ size.height) :
    HeightOnly size a limits ↔ LosesWidth size a limits := by
  obtain ⟨hwidth, hheight⟩ := ha
  obtain ⟨hlimitWidth, hlimitHeight⟩ := hlimits
  unfold HeightOnly LosesWidth RoundsUpTo
  split
  · rename_i hcap
    split
    · omega
    · rename_i hcap'
      have hlt : a.height * limits.width < a.height * a.width :=
        mul_lt_mul_of_pos_left (by omega) hheight
      have hle : a.height * a.width ≤ (size.height + 1) * a.width :=
        mul_le_mul_of_nonneg_right (by omega) hwidth.le
      omega
  · rename_i hcap
    constructor
    · split
      · rintro ⟨heq, -⟩
        omega
      · rename_i hcap'
        rintro ⟨-, -, hlines, -⟩
        -- the second cap takes at least a line more
        have hwide : limits.width < a.width * limits.height / a.height := by
          have hle : limits.width + 1 ≤ a.width * limits.height / a.height :=
            (Int.le_ediv_iff_mul_le hheight).mpr (by omega)
          omega
        generalize a.width * limits.height / a.height = q at hwide hlines
        have hlt : limits.height * limits.width < limits.height * q :=
          mul_lt_mul_of_pos_left hwide hlimitHeight
        have hle : limits.height * q ≤ (size.height - 1) * q :=
          mul_le_mul_of_nonneg_right (by omega) (by omega)
        omega
    · rintro ⟨-, hle, -⟩
      exact absurd hle hcap

/-- **The frames whose width alone is changed.**  The adapter does not enlarge. -/
theorem onlyWidthChanges_iff (hsize : size.Pos) (hadapted : adapted.Pos)
    (hwidthLe : adapted.width ≤ size.width) (hheightLe : adapted.height ≤ size.height)
    (hlimits : limits.Pos) (heven : 2 ∣ limits.width) (heven' : 2 ∣ limits.height) :
    ((size.exact adapted limits).height = size.height ∧
        (size.exact adapted limits).width ≠ size.width) ↔
      OnlyWidthChanges size adapted limits := by
  obtain ⟨hwidth, hheight⟩ := hsize
  unfold OnlyWidthChanges Size.exact
  by_cases hland : size.height ≤ size.width ∧ adapted.height < 360
  · have hraised : size.raised adapted = ⟨size.width * 360 / size.height, 360⟩ := if_pos hland
    have hpos : (⟨size.width * 360 / size.height, 360⟩ : Size).Pos := by
      constructor
      · exact (Int.le_ediv_iff_mul_le hheight).mpr (by omega)
      · show (0 : ℤ) < 360
        decide
    rw [if_pos hland, hraised, heightOnly_iff hpos hlimits heven heven']
  · rw [if_neg hland]
    by_cases hport : size.width < size.height ∧ adapted.width < 360
    · have hraised : size.raised adapted = ⟨360, size.height * 360 / size.width⟩ :=
        (if_neg hland).trans (if_pos hport)
      have hpos : (⟨360, size.height * 360 / size.width⟩ : Size).Pos := by
        constructor
        · show (0 : ℤ) < 360
          decide
        · exact (Int.le_ediv_iff_mul_le hwidth).mpr (by omega)
      rw [if_pos hport, hraised, heightOnly_iff hpos hlimits heven heven']
    · have hraised : size.raised adapted = adapted :=
        (if_neg hland).trans (if_neg hport)
      rw [if_neg hport, hraised, heightOnly_iff hadapted hlimits heven heven',
        heightOnly_iff_losesWidth hadapted hlimits hwidthLe hheightLe]

/-- For a frame that is not adapted and has no side below the minimum. -/
theorem onlyWidthChanges_self (hwidth : 360 ≤ size.width) (hheight : 360 ≤ size.height) :
    OnlyWidthChanges size size limits ↔
      2 ∣ size.height ∧ size.height ≤ limits.height ∧
        (limits.width < size.width ∧
            (size.height - 1) * size.width ≤ size.height * limits.width ∨
          size.width ≤ limits.width ∧ ¬ 2 ∣ size.width) := by
  unfold OnlyWidthChanges LosesWidth
  rw [if_neg (by omega), if_neg (by omega)]
  omega

/-- **The size a frame is sent in.**  It is the computed one, even and within the limits,
except for the frames whose width alone is changed. -/
theorem sent_size_iff (c c' : VideoCapturer) (limits : Size) (frame : CapturedFrame)
    (answers : CaptureAnswers) (adaptation : Adaptation) (buffer original : Size) (time : ℤ)
    (hlimits : limits.Pos) (heven : 2 ∣ limits.width ∧ 2 ∣ limits.height)
    (hsize : frame.size.Pos)
    (hadapt : answers.adaptFrame = some adaptation) (hadapted : adaptation.adapted.Pos)
    (hadaptedLe : adaptation.adapted.width ≤ frame.size.width ∧
      adaptation.adapted.height ≤ frame.size.height)
    (hsent : (c.setFrameSizeLimit limits.width limits.height).sendVideo frame answers =
      some (c', .sent buffer time original)) :
    ((c.setFrameSizeLimit limits.width limits.height).adaptedSize frame.size
          adaptation.adapted = some buffer ∧
        (2 ∣ buffer.width ∧ 2 ∣ buffer.height) ∧
        buffer.width ≤ limits.width ∧ buffer.height ≤ limits.height) ↔
      ¬ OnlyWidthChanges frame.size adaptation.adapted limits := by
  obtain ⟨adaptation', adapted, hadapt', hcomputed, hbuffer⟩ := buffer_of_sendVideo hsent
  obtain rfl : adaptation = adaptation' := Option.some.inj (hadapt.symm.trans hadapt')
  have hexact : frame.size.exact adaptation.adapted limits = adapted :=
    ((adaptedSize_eq_some_iff (c := c.setFrameSizeLimit limits.width limits.height) hsize.1
      hsize.2 hadapted.nonneg hlimits.nonneg).mp hcomputed).2.2
  obtain ⟨hevenExact, hleExact⟩ :=
    exact_even_le hsize.nonneg hadapted.nonneg hlimits.nonneg heven
  rw [← onlyWidthChanges_iff hsize hadapted hadaptedLe.1 hadaptedLe.2 hlimits heven.1 heven.2,
    hcomputed]
  rw [hexact] at hevenExact hleExact ⊢
  constructor
  · rintro ⟨hsame, -⟩ ⟨hheight, hwidth⟩
    rw [hbuffer, if_neg (not_not_intro hheight)] at hsame
    exact hwidth (congrArg Size.width (Option.some.inj hsame))
  · intro hnot
    have hsame : buffer = adapted := by
      by_cases hheight : adapted.height = frame.size.height
      · have hwidth : adapted.width = frame.size.width := by
          by_contra hwidth
          exact hnot ⟨hheight, hwidth⟩
        rw [hbuffer, if_neg (not_not_intro hheight)]
        exact (congrArg₂ Size.mk hwidth hheight).symm
      · rw [hbuffer, if_pos hheight]
    rw [hsame]
    exact ⟨rfl, hevenExact, hleExact⟩

theorem sent_size_iff_vga :
    (defaultCapturer.setFrameSizeLimit 1280 720).adaptedSize ⟨640, 480⟩ ⟨640, 480⟩ =
          some ⟨640, 480⟩ ∧
        (2 ∣ (640 : ℤ) ∧ 2 ∣ (480 : ℤ)) ∧ (640 : ℤ) ≤ 1280 ∧ (480 : ℤ) ≤ 720 ↔
      ¬ OnlyWidthChanges ⟨640, 480⟩ ⟨640, 480⟩ ⟨1280, 720⟩ :=
  sent_size_iff defaultCapturer { defaultCapturer with lastTimestamp := 40000 } ⟨1280, 720⟩
    ⟨⟨640, 480⟩, 40000⟩ ⟨some ⟨⟨640, 480⟩, 40000⟩, true, 0, true⟩ ⟨⟨640, 480⟩, 40000⟩ ⟨640, 480⟩
    ⟨640, 480⟩ 40000 ⟨by decide, by decide⟩ ⟨by decide, by decide⟩ ⟨by decide, by decide⟩ rfl
    ⟨by decide, by decide⟩ ⟨by decide, by decide⟩ (by decide)

/-- A frame of 641 by 480 goes out in that odd size, where 642 by 480 was computed. -/
theorem odd_width_is_sent :
    checkAspectRatio 641 480 = .success ∧
      (defaultCapturer.setFrameSizeLimit 1280 720).sendVideo ⟨⟨641, 480⟩, 40000⟩
          ⟨some ⟨⟨641, 480⟩, 40000⟩, true, 0, true⟩ =
        some ({ defaultCapturer with lastTimestamp := 40000 },
          .sent ⟨641, 480⟩ 40000 ⟨641, 480⟩) ∧
      (defaultCapturer.setFrameSizeLimit 1280 720).adaptedSize ⟨641, 480⟩ ⟨641, 480⟩ =
        some ⟨642, 480⟩ ∧
      ¬ 2 ∣ (641 : ℤ) := by
  decide

end

end Caff
