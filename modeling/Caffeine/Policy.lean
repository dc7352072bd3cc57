/-
# Broadcast policy

`src/Policy.hpp`, `src/Policy.cpp` and the trimming helpers of `src/Utils.hpp`:
the limits of the platform, the aspect ratio check and the annotated title.
-/
import Mathlib.Data.List.DropRight
import Caffeine.Types

namespace Caff

/-! ## Constants -/

/-- In bits per second. -/
def maxBitsPerSecond : ℤ := 2000000

def maxAspectWidth : ℤ := 3
def maxAspectHeight : ℤ := 1
def minAspectWidth : ℤ := 1
def minAspectHeight : ℤ := 3
def maxFrameHeight : ℤ := 720
def maxFrameWidth : ℤ := 1280
def minFrameDimension : ℤ := 360
def maxFps : ℤ := 30

/-- What stands for an empty title. -/
def defaultTitle : Bytes := toBytes "LIVE on Caffeine!"
/-- What stands before the title of a broadcast for adults. -/
def seventeenPlusTag : Bytes := toBytes "[17+] "
/-- In bytes. -/
def maxTitleLength : ℕ := 255

/-! ## Aspect ratio -/

/-- The products are taken in 64 bits, where those of 32-bit numbers are exact. -/
def isRatioLess (width1 height1 width2 height2 : ℤ) : Bool :=
  width1 * height2 < width2 * height1

/-- The same products, the other way. -/
def isRatioGreater (width1 height1 width2 height2 : ℤ) : Bool :=
  width1 * height2 > width2 * height1

/-- `checkAspectRatio`: the width may be three times the height, and the height three times the
width. -/
def checkAspectRatio (width height : ℤ) : Result :=
  if isRatioGreater width height maxAspectWidth maxAspectHeight then .aspectTooWide
  else if isRatioLess width height minAspectWidth minAspectHeight then .aspectTooNarrow
  else .success

/-! ## Titles -/

/-- `std::isspace` in the C locale. -/
def isspace (ch : UInt8) : Bool := ch = 0x20 ∨ (0x09 ≤ ch ∧ ch ≤ 0x0d)

/-- Without the blanks in front, -/
def ltrim (s : Bytes) : Bytes := s.dropWhile isspace

/-- behind, -/
def rtrim (s : Bytes) : Bytes := s.rdropWhile isspace

/-- and on both sides. -/
def trim (s : Bytes) : Bytes := rtrim (ltrim s)

/-- `annotateTitle`: the title is trimmed and tagged, and cut to the length last. -/
def annotateTitle (title : Bytes) (rating : Rating) : Bytes :=
  let title := trim title
  let title := if title.isEmpty then defaultTitle else title
  let title := if rating = .seventeenPlus then seventeenPlusTag ++ title else title
  if title.length > maxTitleLength then title.take maxTitleLength else title

end Caff
