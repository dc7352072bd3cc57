/-
# The annotated title

`annotateTitle` trims the title, puts the default in the place of an empty one, adds the tag
of its rating, and cuts what is longer than 255 bytes.  The cut comes last and counts bytes:
it can go through a character, and it can leave whitespace at the end.
-/
import Caffeine.Library.Utf8
import Caffeine.Policy
import Caffeine.RestApiReturns

namespace Caff

open Utf8

/-! ## The parts of the title -/

def ratingTag (rating : Rating) : Bytes :=
  if rating = .seventeenPlus then seventeenPlusTag else []

/-- The trimmed title, or the default one. -/
def namedTitle (title : Bytes) : Bytes :=
  if (trim title).isEmpty then defaultTitle else trim title

/-- The bytes that are left for the title beside the tag. -/
def titleRoom (rating : Rating) : ℕ := maxTitleLength - (ratingTag rating).length

/-- There is no whitespace at either end. -/
structure Trimmed (b : Bytes) : Prop where
  head : ∀ x, b.head? = some x → isspace x = false
  last : ∀ x, b.getLast? = some x → isspace x = false

section

variable {title b : Bytes} {rating : Rating} {x : UInt8}

theorem annotateTitle_eq (title : Bytes) (rating : Rating) :
    annotateTitle title rating = (ratingTag rating ++ namedTitle title).take maxTitleLength := by
  have hcut : ∀ l : Bytes,
      (if l.length > maxTitleLength then l.take maxTitleLength else l) = l.take maxTitleLength := by
    intro l
    split
    · rfl
    · rename_i hle
      exact (List.take_of_length_le (Nat.le_of_not_lt hle)).symm
  unfold annotateTitle ratingTag namedTitle
  dsimp only
  rw [hcut]
  split
  · rfl
  · rfl

theorem length_ratingTag_le (rating : Rating) : (ratingTag rating).length ≤ 6 := by
  cases rating <;> decide

/-! ## Trimming -/

/-- Whitespace is ASCII. -/
theorem lt_of_isspace (h : isspace x = true) : x < 0x80 := by
  have hx : x = 0x20 ∨ (0x09 ≤ x ∧ x ≤ 0x0d) := of_decide_eq_true h
  rcases hx with rfl | ⟨-, hle⟩
  · decide
  · exact UInt8.lt_of_le_of_lt hle (by decide)

theorem valid_ltrim (h : Valid b) : Valid (ltrim b) := by
  have hsplit : b.takeWhile isspace ++ ltrim b = b := List.takeWhile_append_dropWhile
  have hascii : Valid (b.takeWhile isspace) :=
    valid_of_ascii fun x hx => lt_of_isspace (List.mem_takeWhile_imp hx)
  rw [← hsplit] at h
  exact h.of_append hascii

theorem valid_rtrim (h : Valid b) : Valid (rtrim b) := by
  have hsplit : rtrim b ++ b.rtakeWhile isspace = b := List.rdropWhile_append_rtakeWhile
  have hascii : Valid (b.rtakeWhile isspace) :=
    valid_of_ascii fun x hx => lt_of_isspace (List.mem_rtakeWhile_imp hx)
  rw [← hsplit] at h
  exact h.of_append' hascii

/-- Trimming a text leaves a text. -/
theorem valid_trim (h : Valid b) : Valid (trim b) := valid_rtrim (valid_ltrim h)

/-- What is kept from the end is kept up to the last byte that is not whitespace. -/
theorem lt_length_rtrim {n : ℕ} (h : b[n]? = some x) (hx : isspace x = false) :
    n < (rtrim b).length := by
  have hsplit : rtrim b ++ b.rtakeWhile isspace = b := List.rdropWhile_append_rtakeWhile
  by_contra hle
  have hmem : x ∈ b.rtakeWhile isspace := by
    rw [← hsplit, List.getElem?_append_right (Nat.le_of_not_lt hle)] at h
    exact List.mem_of_getElem? h
  rw [List.mem_rtakeWhile_imp hmem] at hx
  cases hx

theorem rtrim_isPrefix (b : Bytes) : rtrim b <+: b := List.rdropWhile_prefix isspace b

theorem trimmed_trim (b : Bytes) : Trimmed (trim b) := by
  constructor
  · intro x hx
    obtain ⟨t, ht⟩ := rtrim_isPrefix (ltrim b)
    have hhead : (ltrim b).head? = some x := by
      rw [← ht, List.head?_append, show (rtrim (ltrim b)).head? = some x from hx]
      rfl
    have hnot := List.head?_dropWhile_not isspace b
    rw [show (b.dropWhile isspace).head? = some x from hhead] at hnot
    exact hnot
  · intro x hx
    have hne : (ltrim b).rdropWhile isspace ≠ [] := by
      intro hnil
      rw [show trim b = [] from hnil] at hx
      cases hx
    have hnot := List.rdropWhile_last_not isspace (ltrim b) hne
    have hlast : ((ltrim b).rdropWhile isspace).getLast hne = x := by
      rw [show (trim b).getLast? = ((ltrim b).rdropWhile isspace).getLast? from rfl,
        List.getLast?_eq_some_getLast hne] at hx
      exact Option.some.inj hx
    rw [hlast] at hnot
    simpa using hnot

/-- Bytes that begin with another byte are trimmed at the end only. -/
theorem trim_eq_rtrim (h : ∀ x, b.head? = some x → isspace x = false) : trim b = rtrim b := by
  have hltrim : ltrim b = b := by
    rcases b with _ | ⟨y, b⟩
    · rfl
    · apply List.dropWhile_cons_of_neg
      rw [h y rfl]
      decide
  unfold trim
  rw [hltrim]

theorem rtrim_eq_self (h : ∀ x, b.getLast? = some x → isspace x = false) : rtrim b = b := by
  apply List.rdropWhile_eq_self_iff.mpr
  intro hne
  rw [h _ (List.getLast?_eq_some_getLast hne)]
  decide

/-- A title that begins with another byte is not replaced by the default one. -/
theorem namedTitle_eq_rtrim (hne : b ≠ []) (h : ∀ x, b.head? = some x → isspace x = false) :
    namedTitle b = rtrim b := by
  obtain ⟨x, l, rfl⟩ := List.exists_cons_of_ne_nil hne
  have hlt : 0 < (rtrim (x :: l)).length := lt_length_rtrim (x := x) rfl (h x rfl)
  unfold namedTitle
  rw [trim_eq_rtrim h, if_neg]
  intro hempty
  rw [List.isEmpty_iff.mp hempty] at hlt
  exact absurd hlt (by decide)

/-! ## The whole title -/

theorem trimmed_defaultTitle : Trimmed defaultTitle := by
  constructor
  · intro x hx
    have hsome : defaultTitle.head? = some 0x4c := by decide
    rw [hsome] at hx
    rw [← Option.some.inj hx]
    decide
  · intro x hx
    have hsome : defaultTitle.getLast? = some 0x21 := by decide
    rw [hsome] at hx
    rw [← Option.some.inj hx]
    decide

theorem trimmed_namedTitle (title : Bytes) : Trimmed (namedTitle title) := by
  unfold namedTitle
  split
  · exact trimmed_defaultTitle
  · exact trimmed_trim title

theorem namedTitle_ne_nil (title : Bytes) : namedTitle title ≠ [] := by
  unfold namedTitle
  split
  · decide
  · rename_i hempty
    simpa using hempty

theorem isUtf8_iff_valid : isUtf8 b = true ↔ Valid b := ByteArray.validateUTF8_eq_true_iff

/-- The title is a text before it is cut. -/
theorem valid_annotated (h : Valid title) : Valid (ratingTag rating ++ namedTitle title) := by
  apply Valid.append
  · unfold ratingTag
    split
    · exact isUtf8_iff_valid.mp (isUtf8_toBytes _)
    · exact valid_nil
  · unfold namedTitle
    split
    · exact isUtf8_iff_valid.mp (isUtf8_toBytes _)
    · exact valid_trim h

/-- Behind the length of the default title, the bytes are those of the trimmed one. -/
theorem getElem?_namedTitle {n : ℕ} (hn : 17 ≤ n) : (namedTitle title)[n]? = (trim title)[n]? := by
  unfold namedTitle
  split
  · rename_i hempty
    have hlength : defaultTitle.length ≤ n := hn
    rw [List.isEmpty_iff.mp hempty, List.getElem?_eq_none hlength, List.getElem?_nil]
  · rfl

theorem getElem?_annotated {n : ℕ} (hn : 17 ≤ n) :
    (ratingTag rating ++ namedTitle title)[(ratingTag rating).length + n]? =
      (trim title)[n]? := by
  rw [List.getElem?_append_right (Nat.le_add_right _ _), Nat.add_sub_cancel_left,
    getElem?_namedTitle hn]

theorem length_add_titleRoom (rating : Rating) :
    (ratingTag rating).length + titleRoom rating = 255 := by
  have hle := length_ratingTag_le rating
  unfold titleRoom maxTitleLength
  omega

theorem titleRoom_ge (rating : Rating) : 249 ≤ titleRoom rating := by
  have hle := length_ratingTag_le rating
  have hsum := length_add_titleRoom rating
  omega

/-! ## The cut in a text -/

/-- The trimmed title has no character that is cut. -/
def CutsNoCharacter (title : Bytes) (rating : Rating) : Prop :=
  ∀ x, (trim title)[titleRoom rating]? = some x → x.IsUTF8FirstByte

/-- The requests that are made with a title can be serialised. -/
def Serialises (title : Bytes) : Prop :=
  ∀ texts texts' : List Bytes, texts.all isUtf8 = true → texts'.all isUtf8 = true →
    (dump (texts ++ title :: texts')).Succeeds

theorem serialises_iff : Serialises b ↔ isUtf8 b = true := by
  unfold Serialises
  simp only [returns_dump_iff, List.all_append, List.all_cons, Bool.and_eq_true]
  constructor
  · intro h
    exact (h [] [] rfl rfl).2.1
  · intro h texts texts' htexts htexts'
    exact ⟨htexts, h, htexts'⟩

theorem valid_annotateTitle_iff (h : Valid title) :
    Valid (annotateTitle title rating) ↔ CutsNoCharacter title rating := by
  have hvalid : Valid (ratingTag rating ++ namedTitle title) := valid_annotated h
  have hbyte : (ratingTag rating ++ namedTitle title)[255]? =
      (trim title)[titleRoom rating]? := by
    rw [← length_add_titleRoom rating]
    exact getElem?_annotated (le_trans (by decide) (titleRoom_ge rating))
  have hmax : maxTitleLength = 255 := rfl
  rw [annotateTitle_eq, hmax]
  unfold CutsNoCharacter
  rw [← hbyte]
  by_cases hlong : 255 < (ratingTag rating ++ namedTitle title).length
  · rw [valid_take_iff hvalid hlong, List.getElem?_eq_getElem hlong]
    constructor
    · intro hfirst x hx
      rw [← Option.some.inj hx]
      exact hfirst
    · intro hfirst
      exact hfirst _ rfl
  · rw [List.take_of_length_le (Nat.le_of_not_lt hlong),
      List.getElem?_eq_none (Nat.le_of_not_lt hlong)]
    constructor
    · intro _ x hx
      cases hx
    · intro _
      exact hvalid

/-- **The title as a text.**  It is valid UTF-8, and every request with it can be
serialised, exactly if the cut does not go through a character. -/
theorem annotateTitle_isUtf8_iff (title : Bytes) (rating : Rating)
    (htitle : isUtf8 title = true) :
    (isUtf8 (annotateTitle title rating) = true ∧ Serialises (annotateTitle title rating)) ↔
      CutsNoCharacter title rating := by
  rw [serialises_iff, and_self, isUtf8_iff_valid]
  exact valid_annotateTitle_iff (isUtf8_iff_valid.mp htitle)

theorem annotateTitle_isUtf8_iff_short :
    (isUtf8 (annotateTitle (toBytes " a title ") .seventeenPlus) = true ∧
        Serialises (annotateTitle (toBytes " a title ") .seventeenPlus)) ↔
      CutsNoCharacter (toBytes " a title ") .seventeenPlus :=
  annotateTitle_isUtf8_iff (toBytes " a title ") .seventeenPlus (isUtf8_toBytes _)

/-- 254 letters and one character of two bytes: the second byte is cut off. -/
def longText : Bytes := List.replicate 254 0x61 ++ [0xc3, 0xa9]

theorem annotateTitle_cuts_character :
    isUtf8 longText = true ∧ isUtf8 (annotateTitle longText .none) = false ∧
      ¬ Serialises (annotateTitle longText .none) := by
  have hletters : Valid (List.replicate 254 0x61) := by
    apply valid_of_ascii
    intro x hx
    rw [List.eq_of_mem_replicate hx]
    decide
  have hlast : Valid [0xc3, 0xa9] := isUtf8_iff_valid.mp (by decide)
  have hvalid : Valid longText := hletters.append hlast
  have hinvalid : isUtf8 (annotateTitle longText .none) = false := by
    rw [Bool.eq_false_iff]
    intro h
    have hbyte : (trim longText)[titleRoom .none]? = some 0xa9 := by decide +kernel
    have hfirst := (valid_annotateTitle_iff hvalid).mp (isUtf8_iff_valid.mp h) 0xa9 hbyte
    exact absurd hfirst (by decide)
  constructor
  · exact isUtf8_iff_valid.mpr hvalid
  · constructor
    · exact hinvalid
    · rw [serialises_iff, hinvalid]
      decide

/-! ## The cut at whitespace -/

/-- A trimmed title that fills its room has no whitespace at the end of it. -/
def CutsNoWhitespace (title : Bytes) (rating : Rating) : Prop :=
  ∀ x, (trim title)[titleRoom rating - 1]? = some x → isspace x = false

/-- What the title should come out as, and come out as again. -/
structure Normalised (title : Bytes) (rating : Rating) : Prop where
  nonempty : annotateTitle title rating ≠ []
  length_le : (annotateTitle title rating).length ≤ 255
  trimmed : Trimmed (annotateTitle title rating)
  idempotent : annotateTitle (annotateTitle title .none) rating = annotateTitle title rating

theorem head_annotated (hx : (ratingTag rating ++ namedTitle title).head? = some x) :
    isspace x = false := by
  cases rating with
  | none => exact (trimmed_namedTitle title).head x hx
  | seventeenPlus =>
      have hhead : (seventeenPlusTag ++ namedTitle title).head? = some 0x5b := by
        rw [List.head?_append, show seventeenPlusTag.head? = some 0x5b by decide]
        rfl
      rw [← Option.some.inj (hhead.symm.trans hx)]
      decide

theorem getLast?_annotated :
    (ratingTag rating ++ namedTitle title).getLast? = (namedTitle title).getLast? := by
  have hne := namedTitle_ne_nil title
  rw [List.getLast?_append, List.getLast?_eq_some_getLast hne]
  rfl

/-- The title is cut at its room beside the tag. -/
theorem annotateTitle_eq_append (title : Bytes) (rating : Rating) :
    annotateTitle title rating =
      ratingTag rating ++ (namedTitle title).take (titleRoom rating) := by
  have hle := length_ratingTag_le rating
  rw [annotateTitle_eq, List.take_append,
    List.take_of_length_le (le_trans hle (by decide))]
  rfl

/-- **The cut and whitespace**: the end is trimmed exactly if the cut leaves none. -/
theorem trimmed_annotateTitle_iff :
    Trimmed (annotateTitle title rating) ↔ CutsNoWhitespace title rating := by
  have hge := titleRoom_ge rating
  have hbyte : (ratingTag rating ++ namedTitle title)[254]? =
      (trim title)[titleRoom rating - 1]? := by
    have hindex : 254 = (ratingTag rating).length + (titleRoom rating - 1) := by
      have hsum := length_add_titleRoom rating
      omega
    rw [hindex]
    exact getElem?_annotated (by omega)
  have hlast : (annotateTitle title rating).getLast? =
      ((trim title)[titleRoom rating - 1]?).or (namedTitle title).getLast? := by
    rw [annotateTitle_eq, List.getLast?_take, if_neg (by decide), ← getLast?_annotated, ← hbyte]
    rfl
  constructor
  · intro h x hx
    apply h.last
    rw [hlast, hx]
    rfl
  · intro h
    constructor
    · intro x hx
      rw [annotateTitle_eq, List.head?_take, if_neg (by decide)] at hx
      exact head_annotated hx
    · intro x hx
      rw [hlast] at hx
      rcases hroom : (trim title)[titleRoom rating - 1]? with _ | y
      · rw [hroom] at hx
        exact (trimmed_namedTitle title).last x hx
      · rw [hroom] at hx
        rw [← Option.some.inj hx]
        exact h y hroom

/-- A title that has been annotated before is cut at the same byte. -/
theorem take_namedTitle_annotateTitle (h : CutsNoWhitespace title rating) :
    (namedTitle (annotateTitle title .none)).take (titleRoom rating) =
      (namedTitle title).take (titleRoom rating) := by
  have hge := titleRoom_ge rating
  have hle : titleRoom rating ≤ 255 := by
    have hsum := length_add_titleRoom rating
    omega
  have hcut : annotateTitle title .none = (namedTitle title).take 255 :=
    annotateTitle_eq_append title .none
  have hhead : ∀ x, (annotateTitle title .none).head? = some x → isspace x = false := by
    intro x hx
    rw [annotateTitle_eq, List.head?_take, if_neg (by decide)] at hx
    exact head_annotated hx
  have hne : annotateTitle title .none ≠ [] := by
    rw [hcut]
    intro hnil
    rcases List.take_eq_nil_iff.mp hnil with hzero | hempty
    · cases hzero
    · exact namedTitle_ne_nil title hempty
  rw [namedTitle_eq_rtrim hne hhead, hcut]
  rcases hroom : (namedTitle title)[titleRoom rating - 1]? with _ | x
  · -- the whole title fits
    have hlength : (namedTitle title).length ≤ 255 := by
      have hnone := List.getElem?_eq_none_iff.mp hroom
      omega
    rw [List.take_of_length_le hlength, rtrim_eq_self (trimmed_namedTitle title).last]
  · -- the byte in front of the cut stays
    have hx : isspace x = false := by
      apply h
      rw [← getElem?_namedTitle (by omega)]
      exact hroom
    have hroom' : ((namedTitle title).take 255)[titleRoom rating - 1]? = some x := by
      rw [List.getElem?_take_of_lt (by omega)]
      exact hroom
    have hlt := lt_length_rtrim hroom' hx
    have hrest := List.prefix_iff_eq_take.mp (rtrim_isPrefix ((namedTitle title).take 255))
    rw [hrest, List.take_take, List.take_take]
    congr 1
    omega

/-- **The normal form.**  The title is one exactly if the cut leaves no whitespace at its
end. -/
theorem normalised_iff (title : Bytes) (rating : Rating) :
    Normalised title rating ↔ CutsNoWhitespace title rating := by
  constructor
  · intro h
    exact trimmed_annotateTitle_iff.mp h.trimmed
  · intro h
    constructor
    · rw [annotateTitle_eq_append]
      intro hnil
      have hne := namedTitle_ne_nil title
      have hge := titleRoom_ge rating
      rcases List.take_eq_nil_iff.mp (List.append_eq_nil_iff.mp hnil).2 with hzero | hempty
      · omega
      · exact hne hempty
    · rw [annotateTitle_eq]
      exact List.length_take_le 255 _
    · exact trimmed_annotateTitle_iff.mpr h
    · rw [annotateTitle_eq_append, annotateTitle_eq_append title rating,
        take_namedTitle_annotateTitle h]

/-- 254 letters, a blank and a letter: the blank stays at the end. -/
def spacedText : Bytes := List.replicate 254 0x61 ++ [0x20, 0x61]

theorem annotateTitle_ends_with_blank :
    (annotateTitle spacedText .none).getLast? = some 0x20 ∧ ¬ Normalised spacedText .none := by
  have hlast : (annotateTitle spacedText .none).getLast? = some 0x20 := by decide +kernel
  constructor
  · exact hlast
  · intro h
    exact absurd (h.trimmed.last 0x20 hlast) (by decide)

end

end Caff
