/-
# Cutting UTF-8

Byte lists that are valid UTF-8, and where they can be cut.

* `Utf8.Valid` : the bytes of a text;
* `Utf8.valid_take_iff` : a prefix of a text is a text if no character is cut;
* `Utf8.Valid.of_append`, `Utf8.Valid.of_append'` : what is left of a text when a text is
  taken off its front or its end;
* `Utf8.valid_of_ascii` : ASCII is valid.
-/
import Mathlib.Data.List.Basic
import Mathlib.Tactic.Common

namespace Utf8

/-- The bytes of a text. -/
def Valid (b : List UInt8) : Prop := b.toByteArray.IsValidUTF8

section

variable {a b : List UInt8} {n : ℕ}

theorem valid_nil : Valid [] := ByteArray.isValidUTF8_empty

/-- One text after another is a text. -/
theorem Valid.append (ha : Valid a) (hb : Valid b) : Valid (a ++ b) := by
  unfold Valid
  rw [List.toByteArray_append]
  exact ByteArray.IsValidUTF8.append ha hb

/-- The text of valid bytes. -/
def text (b : List UInt8) (h : Valid b) : String := String.fromUTF8 b.toByteArray h

theorem toByteArray_take (b : List UInt8) (n : ℕ) :
    b.toByteArray.extract 0 n = (b.take n).toByteArray := by
  apply ByteArray.ext
  simp [ByteArray.data_extract]

theorem toByteArray_drop (b : List UInt8) (n : ℕ) :
    b.toByteArray.extract n b.length = (b.drop n).toByteArray := by
  apply ByteArray.ext
  simp [ByteArray.data_extract, List.take_of_length_le]

theorem byteIdx_rawEndPos_text (h : Valid b) : (text b h).rawEndPos = ⟨b.length⟩ := by
  apply String.Pos.Raw.ext
  show (text b h).utf8ByteSize = b.length
  rw [← String.size_toByteArray]
  show b.toByteArray.size = b.length
  simp

/-- A position of a text, between characters. -/
theorem isValid_iff_valid_take (h : Valid b) (hn : n ≤ b.length) :
    String.Pos.Raw.IsValid (text b h) ⟨n⟩ ↔ Valid (b.take n) := by
  have hle : (⟨n⟩ : String.Pos.Raw) ≤ (text b h).rawEndPos := by
    rw [byteIdx_rawEndPos_text]
    exact hn
  have hbytes : (text b h).toByteArray.extract 0 n = (b.take n).toByteArray :=
    toByteArray_take b n
  rw [String.Pos.Raw.isValid_iff_isValidUTF8_extract_zero, hbytes]
  exact and_iff_right hle

/-- **Where a text can be cut**: at its end and in front of a first byte. -/
theorem valid_take_iff (h : Valid b) (hn : n < b.length) :
    Valid (b.take n) ↔ b[n].IsUTF8FirstByte := by
  have hlt : (⟨n⟩ : String.Pos.Raw) < (text b h).rawEndPos := by
    rw [byteIdx_rawEndPos_text]
    exact hn
  have hne : (⟨n⟩ : String.Pos.Raw) ≠ (text b h).rawEndPos := by
    rw [byteIdx_rawEndPos_text]
    intro heq
    exact absurd (congrArg String.Pos.Raw.byteIdx heq) (Nat.ne_of_lt hn)
  have hbyte : (text b h).getUTF8Byte ⟨n⟩ hlt = b[n] := List.getElem_toByteArray
  rw [← isValid_iff_valid_take h (Nat.le_of_lt hn), String.Pos.Raw.isValid_iff_isUTF8FirstByte]
  constructor
  · rintro (heq | ⟨hlt', hfirst⟩)
    · exact absurd heq hne
    · rw [← hbyte]
      exact hfirst
  · intro hfirst
    right
    refine ⟨hlt, ?_⟩
    rw [hbyte]
    exact hfirst

/-- What is left behind a text at the front. -/
theorem Valid.of_append (h : Valid (a ++ b)) (ha : Valid a) : Valid b := by
  have hpos : String.Pos.Raw.IsValid (text (a ++ b) h) ⟨a.length⟩ := by
    rw [isValid_iff_valid_take h (by simp), List.take_left]
    exact ha
  have hsize : (text (a ++ b) h).utf8ByteSize = (a ++ b).length :=
    congrArg String.Pos.Raw.byteIdx (byteIdx_rawEndPos_text h)
  have hrest := hpos.isValidUTF8_extract_utf8ByteSize
  have hbytes : (text (a ++ b) h).toByteArray.extract a.length (a ++ b).length =
      ((a ++ b).drop a.length).toByteArray := toByteArray_drop (a ++ b) a.length
  rw [hsize, hbytes, List.drop_left] at hrest
  exact hrest

/-- What is left in front of a text at the end. -/
theorem Valid.of_append' (h : Valid (a ++ b)) (hb : Valid b) : Valid a := by
  rcases b with _ | ⟨x, b⟩
  · rw [List.append_nil] at h
    exact h
  · have hlt : a.length < (a ++ x :: b).length := by simp
    have hfirst : x.IsUTF8FirstByte := by
      have hget := ByteArray.IsValidUTF8.isUTF8FirstByte_getElem_zero hb (by simp)
      simpa using hget
    have htake := (valid_take_iff h hlt).mpr (by simpa using hfirst)
    rw [List.take_left] at htake
    exact htake

/-- An ASCII character. -/
theorem valid_singleton {x : UInt8} (h : x < 0x80) : Valid [x] := by
  have hlt : x.toNat < 128 := h
  have hval : (Char.ofUInt8 x).val = x.toUInt32 := rfl
  have hsize : (Char.ofUInt8 x).utf8Size = 1 := by
    rw [Char.utf8Size_eq_one_iff, hval, UInt32.le_iff_toNat_le]
    simpa using Nat.le_of_lt_succ hlt
  have hbytes : [Char.ofUInt8 x].utf8Encode = [x].toByteArray := by
    rw [List.utf8Encode_singleton, String.utf8EncodeChar_eq_singleton hsize, hval]
    simp
  exact ⟨[Char.ofUInt8 x], hbytes.symm⟩

/-- ASCII is valid. -/
theorem valid_of_ascii (h : ∀ x ∈ b, x < 0x80) : Valid b := by
  induction b with
  | nil => exact valid_nil
  | cons x b ih =>
      have hx : Valid [x] := valid_singleton (h x List.mem_cons_self)
      exact hx.append (ih fun y hy => h y (List.mem_cons_of_mem x hy))

end

end Utf8
