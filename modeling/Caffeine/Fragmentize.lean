/-
# Fragmenting an encoded image

`rtpFragmentize` of `src/X264Encoder.cpp` copies the NAL units of x264 to the buffer of
the encoded image, each behind a four byte start code, and notes where each of them lies.
The raw pointer `_buffer` and the owner `encodedImageBuffer` are kept apart: a block has
an address, and a copy through the pointer reaches the block the owner holds at that
address.  Counters are `size_t` and `uint32_t` and wrap.  The size of a buffer that grows and
the room in the header are WebRTC's, and parameters.

A first loop computes the size and a second one copies.  `Fragmented.Holds` is what the
second loop keeps, and `rtpFragmentize_holds` what the function leaves behind, also when
one of its checks fails half way.
-/
import Mathlib.Algebra.Ring.Nat
import Mathlib.Data.List.TakeWhile
import Caffeine.Library.Memory
import Caffeine.Types

namespace Caff

/-! ## NAL units -/

/-- `x264_nal_t`: `p_payload` has `i_payload` bytes, an `int`. -/
structure Nal where
  bLongStartcode : Bool
  pPayload : Bytes
  iPayload_lt : pPayload.length < 2 ^ 31

/-- The NAL units of one call, counted by a `uint32_t`. -/
structure NalList where
  nals : List Nal
  numNals_lt : nals.length < 2 ^ 32

def longStartcodeSize : ℕ := 4
def shortStartcodeSize : ℕ := 3
def startCode : Bytes := [0, 0, 0, 1]

/-- The largest `size_t`. -/
def sizeMax : ℕ := 2 ^ 64 - 1

namespace Nal

def iPayload (nal : Nal) : ℕ := nal.pPayload.length

/-- The size of the start code the payload begins with. -/
def startcodeSize (nal : Nal) : ℕ :=
  if nal.bLongStartcode then longStartcodeSize else shortStartcodeSize

/-- The payload without its start code. -/
def data (nal : Nal) : Bytes := nal.pPayload.drop nal.startcodeSize

/-- The bytes a unit takes in the encoded image. -/
def width (nal : Nal) : ℕ := nal.iPayload + if nal.bLongStartcode then 0 else 1

end Nal

/-! ## The encoded image -/

/-- `_buffer`, `_size` and `_length` of `encodedImage`, with the block that
`encodedImageBuffer` owns.  The last field gives new blocks their addresses. -/
structure EncodedImage where
  buffer : Option ℕ := none
  size : ℕ := 0
  length : ℕ := 0
  owned : Option (ℕ × List (Option UInt8)) := none
  allocations : ℕ := 0
  deriving DecidableEq, Repr

/-- A copy to the buffer: through which pointer, from where on, and how many bytes. -/
structure Write where
  buffer : Option ℕ
  offset : ℕ
  size : ℕ
  deriving DecidableEq, Repr

/-- One entry of the arrays of an `RTPFragmentationHeader`. -/
structure Fragment where
  offset : ℕ := 0
  length : ℕ := 0
  plType : ℕ := 0
  timeDiff : ℕ := 0
  deriving DecidableEq, Repr

namespace EncodedImage

/-- The buffer is replaced by a new block of `n` bytes. -/
def allocate (image : EncodedImage) (n : ℕ) : EncodedImage :=
  { image with
    buffer := some image.allocations
    size := n
    owned := some (image.allocations, Memory.alloc UInt8 n)
    allocations := image.allocations + 1 }

/-- `memcpy` to `_buffer + _length`, and `_length` moves on. -/
def append (image : EncodedImage) (data : Bytes) : EncodedImage :=
  { image with
    length := (image.length + data.length) % 2 ^ 64
    owned := image.owned.map fun (address, block) =>
      if image.buffer = some address then
        (address, Memory.write block image.length (data.map some))
      else (address, block) }

/-- The buffer is the block at `address`, of `_size` bytes. -/
structure IsAllocated (image : EncodedImage) (address : ℕ) (block : List (Option UInt8)) :
    Prop where
  buffer : image.buffer = some address
  owned : image.owned = some (address, block)
  size : block.length = image.size

end EncodedImage

/-! ## `rtpFragmentize` -/

/-- The first loop: the required size, if no check fails. -/
def requiredSize : List Nal → ℕ → Option ℕ
  | [], size => some size
  | nal :: rest, size =>
      if 0 < nal.iPayload ∧ nal.iPayload ≤ sizeMax - size then
        let size := (size + nal.iPayload) % 2 ^ 64
        requiredSize rest (if nal.bLongStartcode then size else (size + 1) % 2 ^ 64)
      else none

/-- What the function leaves behind, returning or throwing, with the copies it has made. -/
structure Fragmented where
  image : EncodedImage
  header : List Fragment := []
  writes : List Write := []
  thrown : Bool := false
  deriving DecidableEq, Repr

namespace Fragmented

def append (r : Fragmented) (data : Bytes) : Fragmented :=
  { r with
    image := r.image.append data
    writes := r.writes ++ [⟨r.image.buffer, r.image.length, data.length⟩] }

/-- The body of the second loop behind its check. -/
def copyNal (r : Fragmented) (frag : ℕ) (nal : Nal) : Fragmented :=
  let offset := nal.startcodeSize
  let naluSize := (nal.iPayload + 2 ^ 32 - offset) % 2 ^ 32
  let r := r.append startCode
  let r := r.append ((nal.pPayload.drop offset).take naluSize)
  { r with
    header := r.header.set frag
      { offset := (r.image.length + 2 ^ 64 - naluSize) % 2 ^ 64, length := naluSize
        plType := 0, timeDiff := 0 } }

/-- The second loop. -/
def copyNals : List Nal → ℕ → Fragmented → Fragmented
  | [], _, r => r
  | nal :: rest, frag, r =>
      if 4 ≤ nal.iPayload then copyNals rest (frag + 1) (r.copyNal frag nal)
      else { r with thrown := true }

end Fragmented

/-- The functions of WebRTC behind which an encoded image is laid out. -/
structure WebrtcVideo where
  /-- `CalcBufferSize` of an I420 frame. -/
  calcBufferSize : ℤ → ℤ → ℕ
  /-- The entries of a new `RTPFragmentationHeader` behind the call, for a number of fragments. -/
  verifyAndAllocateFragmentationHeader : ℕ → List Fragment

/-- `VerifyAndAllocateFragmentationHeader` makes room for as many fragments as it is asked
for. -/
def WebrtcVideo.AllocatesHeader (webrtc : WebrtcVideo) : Prop :=
  ∀ n, (webrtc.verifyAndAllocateFragmentationHeader n).length = n

section

variable (webrtc : WebrtcVideo)

/-- The buffer grows if the required size does not fit. -/
def EncodedImage.grow (image : EncodedImage) (width height : ℤ) (required : ℕ) : EncodedImage :=
  if image.size < required then
    let size := webrtc.calcBufferSize width height
    image.allocate (if size < required then required else size)
  else image

/-- `rtpFragmentize`, for a frame buffer of the given size. -/
def rtpFragmentize (image : EncodedImage) (width height : ℤ) (l : NalList) : Fragmented :=
  match requiredSize l.nals 0 with
  | none => { image, thrown := true }
  | some required =>
      Fragmented.copyNals l.nals 0
        { image := { image.grow webrtc width height required with length := 0 }
          header := webrtc.verifyAndAllocateFragmentationHeader l.nals.length }

end

/-! ## What the first loop computes -/

theorem Nal.startcodeSize_le (nal : Nal) : nal.startcodeSize ≤ 4 := by
  unfold startcodeSize longStartcodeSize shortStartcodeSize
  split <;> omega

theorem Nal.startcodeSize_add (nal : Nal) :
    nal.startcodeSize + (if nal.bLongStartcode then 0 else 1) = 4 := by
  unfold startcodeSize longStartcodeSize shortStartcodeSize
  split <;> omega

/-- A unit takes a long start code and its data. -/
theorem Nal.width_eq {nal : Nal} (h : 4 ≤ nal.iPayload) : nal.width = 4 + nal.data.length := by
  have hle := nal.startcodeSize_le
  have hadd := nal.startcodeSize_add
  unfold width data
  rw [List.length_drop]
  unfold iPayload at h ⊢
  omega

/-- The bytes units take. -/
def totalWidth : List Nal → ℕ
  | [] => 0
  | nal :: rest => nal.width + totalWidth rest

@[simp] theorem totalWidth_nil : totalWidth [] = 0 := rfl

@[simp] theorem totalWidth_cons (nal : Nal) (rest : List Nal) :
    totalWidth (nal :: rest) = nal.width + totalWidth rest := rfl

/-- A unit has less than 2^31 bytes. -/
theorem totalWidth_le (l : List Nal) : totalWidth l ≤ l.length * 2 ^ 31 := by
  induction l with
  | nil => rfl
  | cons nal rest ih =>
      have hlt := nal.iPayload_lt
      rw [totalWidth_cons, List.length_cons]
      unfold Nal.width Nal.iPayload
      split <;> omega

/-- So many units of that size fit a `size_t`. -/
theorem NalList.totalWidth_lt (l : NalList) : totalWidth l.nals < 2 ^ 64 := by
  have h := totalWidth_le l.nals
  have hlt := l.numNals_lt
  omega

/-- The first loop does not wrap. -/
theorem requiredSize_eq (l : List Nal) (size : ℕ) (hlt : size + totalWidth l < 2 ^ 64) :
    requiredSize l size =
      if ∀ nal ∈ l, 0 < nal.iPayload then some (size + totalWidth l) else none := by
  induction l generalizing size with
  | nil => simp [requiredSize]
  | cons nal rest ih =>
      rw [totalWidth_cons] at hlt
      have hwidth : nal.iPayload + (if nal.bLongStartcode then 0 else 1) = nal.width := rfl
      rw [requiredSize]
      by_cases hpos : 0 < nal.iPayload
      · have hroom : nal.iPayload ≤ sizeMax - size := by
          unfold sizeMax
          omega
        have hnext : (if nal.bLongStartcode then (size + nal.iPayload) % 2 ^ 64
            else ((size + nal.iPayload) % 2 ^ 64 + 1) % 2 ^ 64) = size + nal.width := by
          rw [← hwidth] at hlt ⊢
          split at hlt <;> simp only [*, if_true, if_false, Bool.false_eq_true] <;> omega
        rw [if_pos ⟨hpos, hroom⟩]
        simp only [hnext]
        rw [ih (size + nal.width) (by omega), totalWidth_cons, Nat.add_assoc]
        simp only [List.forall_mem_cons, hpos, true_and]
      · rw [if_neg (by omega), if_neg]
        intro h
        exact hpos (h nal List.mem_cons_self)

theorem NalList.requiredSize_eq (l : NalList) :
    requiredSize l.nals 0 =
      if ∀ nal ∈ l.nals, 0 < nal.iPayload then some (totalWidth l.nals) else none := by
  have h := Caff.requiredSize_eq l.nals 0 (by rw [Nat.zero_add]; exact l.totalWidth_lt)
  rwa [Nat.zero_add] at h

/-! ## What the second loop keeps -/

/-- The bytes of units in the encoded image. -/
def encoded (l : List Nal) : Bytes := l.flatMap fun nal => startCode ++ nal.data

@[simp] theorem encoded_cons (nal : Nal) (rest : List Nal) :
    encoded (nal :: rest) = startCode ++ nal.data ++ encoded rest := by
  rw [encoded, List.flatMap_cons, ← encoded]

/-- The buffer is a block of the given address and size that begins with `content`, and
all copies went into it. -/
structure Fragmented.Holds (r : Fragmented) (address capacity : ℕ) (content : Bytes) : Prop where
  allocated : ∃ block, r.image.IsAllocated address block ∧
    block.take content.length = content.map some
  size : r.image.size = capacity
  length : r.image.length = content.length
  writes : ∀ w ∈ r.writes, w.buffer = some address ∧ w.offset + w.size ≤ capacity

section

variable {r : Fragmented} {address capacity : ℕ} {content data : Bytes}

/-- **A copy that fits** extends the content. -/
theorem Fragmented.Holds.append (h : r.Holds address capacity content)
    (hfits : content.length + data.length ≤ capacity)
    (hlt : content.length + data.length < 2 ^ 64) :
    (r.append data).Holds address capacity (content ++ data) := by
  obtain ⟨block, halloc, hcontent⟩ := h.allocated
  have hroom : Memory.Fits block r.image.length (data.map some).length := by
    unfold Memory.Fits
    rw [halloc.size, h.size, h.length, List.length_map]
    exact hfits
  constructor
  · refine ⟨Memory.write block r.image.length (data.map some), ⟨halloc.buffer, ?_, ?_⟩, ?_⟩
    · simp only [Fragmented.append, EncodedImage.append, halloc.owned, halloc.buffer,
        Option.map_some, if_true]
    · rw [Memory.length_write, halloc.size]
      rfl
    · have htake := Memory.take_write hroom
      rw [h.length, List.length_map] at htake
      rw [h.length, List.length_append, htake, hcontent, List.map_append]
  · exact h.size
  · show (r.image.length + data.length) % 2 ^ 64 = (content ++ data).length
    rw [h.length, List.length_append, Nat.mod_eq_of_lt hlt]
  · intro w hw
    rcases List.mem_append.mp hw with hw | hw
    · exact h.writes w hw
    · rw [List.mem_singleton.mp hw]
      constructor
      · exact halloc.buffer
      · show r.image.length + data.length ≤ capacity
        rw [h.length]
        exact hfits

/-- The header is no part of what is kept. -/
theorem Fragmented.Holds.of_header (h : r.Holds address capacity content)
    (header : List Fragment) : ({ r with header } : Fragmented).Holds address capacity content :=
  ⟨h.allocated, h.size, h.length, h.writes⟩

/-- The second subtraction of the loop does not wrap. -/
theorem Nal.naluSize_eq {nal : Nal} (h : 4 ≤ nal.iPayload) :
    (nal.iPayload + 2 ^ 32 - nal.startcodeSize) % 2 ^ 32 = nal.data.length := by
  have hle := nal.startcodeSize_le
  have hlt := nal.iPayload_lt
  unfold data
  rw [List.length_drop]
  unfold iPayload at h ⊢
  omega

theorem Nal.take_data {nal : Nal} (h : 4 ≤ nal.iPayload) :
    (nal.pPayload.drop nal.startcodeSize).take
      ((nal.iPayload + 2 ^ 32 - nal.startcodeSize) % 2 ^ 32) = nal.data := by
  rw [Nal.naluSize_eq h, ← Nal.data, List.take_length]

/-- **One round of the second loop.** -/
theorem Fragmented.Holds.copyNal {nal : Nal} (h : r.Holds address capacity content)
    (hpayload : 4 ≤ nal.iPayload) (hfits : content.length + nal.width ≤ capacity)
    (hlt : content.length + nal.width < 2 ^ 64) (frag : ℕ) :
    (r.copyNal frag nal).Holds address capacity (content ++ (startCode ++ nal.data)) := by
  have hwidth := Nal.width_eq hpayload
  have hcode : startCode.length = 4 := rfl
  unfold Fragmented.copyNal
  simp only [Nal.take_data hpayload]
  rw [← List.append_assoc]
  apply Fragmented.Holds.of_header
  apply Fragmented.Holds.append
  · apply h.append
    · omega
    · omega
  · rw [List.length_append]
    omega
  · rw [List.length_append]
    omega

/-- **The second loop** copies units up to the first that fails its check. -/
theorem Fragmented.Holds.copyNals {l : List Nal} (h : r.Holds address capacity content)
    (hfits : content.length + totalWidth l ≤ capacity)
    (hlt : content.length + totalWidth l < 2 ^ 64) (frag : ℕ) :
    (Fragmented.copyNals l frag r).Holds address capacity
      (content ++ encoded (l.takeWhile fun nal => 4 ≤ nal.iPayload)) := by
  induction l generalizing r content frag with
  | nil =>
      rw [Fragmented.copyNals, List.takeWhile_nil]
      simpa [encoded] using h
  | cons nal rest ih =>
      rw [totalWidth_cons] at hfits hlt
      rw [Fragmented.copyNals]
      by_cases hpayload : 4 ≤ nal.iPayload
      · have hlen : (content ++ (startCode ++ nal.data)).length = content.length + nal.width := by
          rw [Nal.width_eq hpayload, List.length_append, List.length_append]
          rfl
        rw [if_pos hpayload, List.takeWhile_cons_of_pos (by simpa using hpayload), encoded_cons,
          ← List.append_assoc]
        apply ih (h.copyNal hpayload (by omega) (by omega) frag)
        · omega
        · omega
      · rw [if_neg hpayload, List.takeWhile_cons_of_neg (by simpa using hpayload)]
        simpa [encoded] using (⟨h.allocated, h.size, h.length, h.writes⟩ :
          ({ r with thrown := true } : Fragmented).Holds address capacity content)

end

/-- The buffer that is filled has room for the required size. -/
theorem EncodedImage.IsAllocated.grow {image : EncodedImage} {address : ℕ}
    {block : List (Option UInt8)} (h : image.IsAllocated address block)
    (webrtc : WebrtcVideo) (width height : ℤ) (required : ℕ) :
    ∃ address' block',
      (image.grow webrtc width height required).IsAllocated address' block' ∧
        required ≤ (image.grow webrtc width height required).size := by
  unfold EncodedImage.grow
  by_cases hsize : image.size < required
  · rw [if_pos hsize]
    refine ⟨_, _, ⟨rfl, rfl, Memory.length_alloc _⟩, ?_⟩
    show required ≤ if webrtc.calcBufferSize width height < required then required
      else webrtc.calcBufferSize width height
    split <;> omega
  · rw [if_neg hsize]
    exact ⟨address, block, h, by omega⟩

/-- An allocated buffer before the second loop. -/
theorem EncodedImage.IsAllocated.holds {image : EncodedImage} {address : ℕ}
    {block : List (Option UInt8)} (h : image.IsAllocated address block) (header : List Fragment) :
    ({ image := { image with length := 0 }, header } : Fragmented).Holds address image.size [] := by
  constructor
  · exact ⟨block, ⟨h.buffer, h.owned, h.size⟩, by simp⟩
  · rfl
  · rfl
  · intro w hw
    cases hw

section

variable (webrtc : WebrtcVideo) {image : EncodedImage} (width height : ℤ) {address : ℕ}
  {block : List (Option UInt8)} {l : NalList}

/-- Where a check of the first loop fails nothing has been touched. -/
theorem rtpFragmentize_of_not_pos (hpos : ¬ ∀ nal ∈ l.nals, 0 < nal.iPayload) :
    rtpFragmentize webrtc image width height l = { image, thrown := true } := by
  rw [rtpFragmentize, l.requiredSize_eq, if_neg hpos]

/-- Else the second loop begins with an empty image. -/
theorem rtpFragmentize_of_pos (hpos : ∀ nal ∈ l.nals, 0 < nal.iPayload) :
    rtpFragmentize webrtc image width height l =
      Fragmented.copyNals l.nals 0
        { image :=
            { image.grow webrtc width height (totalWidth l.nals) with length := 0 }
          header := webrtc.verifyAndAllocateFragmentationHeader l.nals.length } := by
  rw [rtpFragmentize, l.requiredSize_eq, if_pos hpos]

/-- **What `rtpFragmentize` leaves behind**: an allocated buffer, filled with the units in
front of the first that fails the check of the second loop, by copies inside of it. -/
theorem rtpFragmentize_holds (h : image.IsAllocated address block)
    (hpos : ∀ nal ∈ l.nals, 0 < nal.iPayload) :
    ∃ address' capacity,
      (rtpFragmentize webrtc image width height l).Holds address' capacity
        (encoded (l.nals.takeWhile fun nal => 4 ≤ nal.iPayload)) := by
  obtain ⟨address', block', hgrown, hroom⟩ :=
    h.grow webrtc width height (totalWidth l.nals)
  refine ⟨address', (image.grow webrtc width height (totalWidth l.nals)).size, ?_⟩
  rw [rtpFragmentize_of_pos webrtc width height hpos]
  apply (hgrown.holds (webrtc.verifyAndAllocateFragmentationHeader l.nals.length)).copyNals
  · rw [List.length_nil, Nat.zero_add]
    exact hroom
  · rw [List.length_nil, Nat.zero_add]
    exact l.totalWidth_lt

end

/-! ## The header -/

/-- The entries for units, the first of which is copied to `length`. -/
def fragments : List Nal → ℕ → List Fragment
  | [], _ => []
  | nal :: rest, length =>
      { offset := length + 4, length := nal.data.length } ::
        fragments rest (length + 4 + nal.data.length)

theorem length_fragments (l : List Nal) (length : ℕ) : (fragments l length).length = l.length := by
  induction l generalizing length with
  | nil => rfl
  | cons nal rest ih => rw [fragments, List.length_cons, List.length_cons, ih]

theorem length_encoded_cons (nal : Nal) (rest : List Nal) :
    (encoded (nal :: rest)).length = 4 + nal.data.length + (encoded rest).length := by
  rw [encoded_cons, List.length_append, List.length_append]
  rfl

/-- The entry of the `i`-th unit. -/
theorem getElem?_fragments (l : List Nal) (length i : ℕ) (hi : i < l.length) :
    (fragments l length)[i]? = some
      { offset := length + (encoded (l.take i)).length + 4, length := l[i].data.length } := by
  induction l generalizing length i with
  | nil => cases hi
  | cons nal rest ih =>
      cases i with
      | zero => rfl
      | succ i =>
          rw [fragments, List.getElem?_cons_succ, ih _ i (by simpa using hi)]
          rw [List.take_succ_cons, length_encoded_cons, List.getElem_cons_succ]
          congr 2
          omega

/-- Setting the entry behind those that are set. -/
theorem take_set_succ {α : Type*} {l : List α} {n : ℕ} (a : α) (h : n < l.length) :
    (l.set n a).take (n + 1) = l.take n ++ [a] := by
  rw [List.take_succ_eq_append_getElem (by rwa [List.length_set]), List.take_set_of_le le_rfl,
    List.getElem_set_self]

section

variable {r : Fragmented} {nal : Nal}

/-- A unit that is copied adds a start code and its data to the length, -/
theorem Fragmented.copyNal_length (frag : ℕ) (hpayload : 4 ≤ nal.iPayload)
    (hlt : r.image.length + nal.width < 2 ^ 64) :
    (r.copyNal frag nal).image.length = r.image.length + 4 + nal.data.length := by
  have hwidth := Nal.width_eq hpayload
  have hcode : startCode.length = 4 := rfl
  unfold Fragmented.copyNal Fragmented.append EncodedImage.append
  simp only [Nal.take_data hpayload, hcode]
  omega

/-- gets an entry in the header for its data, -/
theorem Fragmented.copyNal_header (frag : ℕ) (hpayload : 4 ≤ nal.iPayload)
    (hlt : r.image.length + nal.width < 2 ^ 64) :
    (r.copyNal frag nal).header =
      r.header.set frag { offset := r.image.length + 4, length := nal.data.length } := by
  have hwidth := Nal.width_eq hpayload
  have hcode : startCode.length = 4 := rfl
  unfold Fragmented.copyNal Fragmented.append EncodedImage.append
  simp only [Nal.take_data hpayload, hcode]
  simp only [Nal.naluSize_eq hpayload]
  congr 2
  omega

/-- and adds no exception. -/
theorem Fragmented.copyNal_thrown (frag : ℕ) : (r.copyNal frag nal).thrown = r.thrown := by
  obtain ⟨image, header, writes, thrown⟩ := r
  rfl

/-- **The header**, where no check fails. -/
theorem Fragmented.copyNals_header (l : List Nal) (frag : ℕ)
    (hpayload : ∀ nal ∈ l, 4 ≤ nal.iPayload) (hlt : r.image.length + totalWidth l < 2 ^ 64)
    (hlen : r.header.length = frag + l.length) :
    (Fragmented.copyNals l frag r).header =
        r.header.take frag ++ fragments l r.image.length ∧
      (Fragmented.copyNals l frag r).thrown = r.thrown := by
  induction l generalizing r frag with
  | nil =>
      rw [Fragmented.copyNals, fragments, List.append_nil, List.take_of_length_le]
      · exact ⟨rfl, rfl⟩
      · rw [hlen]
        rfl
  | cons nal rest ih =>
      rw [totalWidth_cons] at hlt
      obtain ⟨hnal, hrest⟩ := List.forall_mem_cons.mp hpayload
      have hwidth := Nal.width_eq hnal
      have hlength := Fragmented.copyNal_length (r := r) frag hnal (by omega)
      have hheader := Fragmented.copyNal_header (r := r) frag hnal (by omega)
      rw [List.length_cons] at hlen
      rw [Fragmented.copyNals, if_pos hnal]
      obtain ⟨h, hthrown⟩ := ih (r := r.copyNal frag nal) (frag + 1) hrest (by omega)
        (by rw [hheader, List.length_set]; omega)
      constructor
      · rw [h, hheader, hlength, take_set_succ _ (by omega), fragments, List.append_assoc,
          List.singleton_append]
      · rw [hthrown, Fragmented.copyNal_thrown]

end

/-! ## The layout of the encoded image -/

/-- The data of the `i`-th unit lie behind the units in front of it and a start code. -/
theorem encoded_eq (l : List Nal) (i : ℕ) (hi : i < l.length) :
    encoded l =
      (encoded (l.take i) ++ startCode) ++ l[i].data ++ encoded (l.drop (i + 1)) := by
  conv_lhs => rw [← List.take_append_drop i l, List.drop_eq_getElem_cons hi]
  unfold encoded
  rw [List.flatMap_append, List.flatMap_cons, List.append_assoc, List.append_assoc,
    List.append_assoc]

/-- The image of one more unit. -/
theorem encoded_take_succ (l : List Nal) (i : ℕ) (hi : i < l.length) :
    (encoded (l.take (i + 1))).length = (encoded (l.take i)).length + 4 + l[i].data.length := by
  rw [List.take_succ_eq_append_getElem hi]
  unfold encoded
  rw [List.flatMap_append, List.length_append, List.flatMap_singleton, List.length_append]
  have hcode : startCode.length = 4 := rfl
  omega

/-- The image is as long as the widths of its units. -/
theorem length_encoded {l : List Nal} (hpayload : ∀ nal ∈ l, 4 ≤ nal.iPayload) :
    (encoded l).length = totalWidth l := by
  induction l with
  | nil => rfl
  | cons nal rest ih =>
      obtain ⟨hnal, hrest⟩ := List.forall_mem_cons.mp hpayload
      rw [length_encoded_cons, ih hrest, totalWidth_cons, Nal.width_eq hnal]

/-- Cells that are known to hold bytes hold a part of them where it lies. -/
theorem read_of_take_eq {block : List (Option UInt8)} {n : ℕ} {x y z : Bytes}
    (h : block.take n = (x ++ y ++ z).map some) :
    Memory.read block x.length y.length = y.map some := by
  have hlen : (block.take n).length = (x ++ y ++ z).length := by
    rw [h, List.length_map]
  rw [List.length_take, List.length_append, List.length_append] at hlen
  have hread : Memory.read (block.take n) x.length y.length =
      Memory.read block x.length y.length := Memory.read_of_take (by omega)
  rw [← hread, h, List.map_append, List.map_append]
  have hread' := Memory.read_append (x.map some) (y.map some) (z.map some)
  rwa [List.length_map, List.length_map] at hread'

/-- **The encoded image.**  From an allocated buffer, with a header that gets room for the
units, and for units of at least four bytes, `rtpFragmentize` leaves the length that its first
loop has computed; the image is the units in order, each behind a long start code; and the
header selects the data of each, four bytes behind the end of the one in front of it. -/
theorem rtpFragmentize_encodes (webrtc : WebrtcVideo) (hallocates : webrtc.AllocatesHeader)
    (image : EncodedImage) (width height : ℤ) (l : NalList) (address : ℕ)
    (block : List (Option UInt8))
    (h : image.IsAllocated address block) (hpayload : ∀ nal ∈ l.nals, 4 ≤ nal.iPayload) :
    ∃ r, rtpFragmentize webrtc image width height l = r ∧ r.thrown = false ∧
      requiredSize l.nals 0 = some r.image.length ∧
      (∃ address' block', r.image.IsAllocated address' block' ∧
        block'.take r.image.length =
          (l.nals.flatMap fun nal => [0, 0, 0, 1] ++ nal.data).map some ∧
        ∀ i (hi : i < l.nals.length), ∃ f, r.header[i]? = some f ∧
          Memory.read block' f.offset f.length = l.nals[i].data.map some) ∧
      r.header.length = l.nals.length ∧
      (∀ f, r.header[0]? = some f → f.offset = 4) ∧
      (∀ i f f', r.header[i]? = some f → r.header[i + 1]? = some f' →
        f'.offset = f.offset + f.length + 4) := by
  have hpos : ∀ nal ∈ l.nals, 0 < nal.iPayload := by
    intro nal hnal
    have := hpayload nal hnal
    omega
  have hall : l.nals.takeWhile (fun nal => 4 ≤ nal.iPayload) = l.nals := by
    apply List.takeWhile_eq_self_iff.mpr
    simpa using hpayload
  obtain ⟨address', capacity, hholds⟩ := rtpFragmentize_holds webrtc width height h hpos
  rw [hall] at hholds
  obtain ⟨hheader, hthrown⟩ : (rtpFragmentize webrtc image width height l).header =
      fragments l.nals 0 ∧ (rtpFragmentize webrtc image width height l).thrown = false := by
    rw [rtpFragmentize_of_pos webrtc width height hpos]
    refine Fragmented.copyNals_header l.nals 0 hpayload ?_ ?_
    · have := l.totalWidth_lt
      show 0 + totalWidth l.nals < 2 ^ 64
      omega
    · rw [hallocates, Nat.zero_add]
  generalize rtpFragmentize webrtc image width height l = r at hholds hheader hthrown
  obtain ⟨block', halloc, hblock⟩ := hholds.allocated
  refine ⟨r, rfl, hthrown, ?_, ?_, ?_, ?_, ?_⟩
  · rw [l.requiredSize_eq, if_pos hpos, hholds.length, length_encoded hpayload]
  · refine ⟨address', block', halloc, ?_, ?_⟩
    · rw [hholds.length, hblock]
      rfl
    · intro i hi
      refine ⟨_, by rw [hheader]; exact getElem?_fragments l.nals 0 i hi, ?_⟩
      rw [encoded_eq l.nals i hi] at hblock
      have hread := read_of_take_eq hblock
      rw [List.length_append] at hread
      rwa [Nat.zero_add]
  · rw [hheader, length_fragments]
  · intro f hf
    rw [hheader] at hf
    have hi : 0 < l.nals.length := by
      rw [← length_fragments l.nals 0]
      exact (List.getElem?_eq_some_iff.mp hf).1
    rw [getElem?_fragments l.nals 0 0 hi] at hf
    rw [← Option.some.inj hf]
    rfl
  · intro i f f' hf hf'
    rw [hheader] at hf hf'
    have hi : i + 1 < l.nals.length := by
      rw [← length_fragments l.nals 0]
      exact (List.getElem?_eq_some_iff.mp hf').1
    rw [getElem?_fragments l.nals 0 i (by omega)] at hf
    rw [getElem?_fragments l.nals 0 (i + 1) hi, encoded_take_succ l.nals i (by omega)] at hf'
    rw [← Option.some.inj hf, ← Option.some.inj hf']
    simp only
    omega

/-! ## Two units, one with each start code -/

/-- `webrtc::CalcBufferSize` of an I420 frame. -/
def i420BufferSize (width height : ℤ) : ℕ :=
  (width * height + (width + 1) / 2 * ((height + 1) / 2) * 2).toNat

/-- The functions as WebRTC has them. -/
def i420Webrtc : WebrtcVideo where
  calcBufferSize := i420BufferSize
  verifyAndAllocateFragmentationHeader n := List.replicate n {}

theorem allocatesHeader_i420Webrtc : i420Webrtc.AllocatesHeader := fun _ => List.length_replicate

/-- A parameter set behind a long start code. -/
def parameterSetNal : Nal := ⟨true, [0, 0, 0, 1, 103], by decide⟩

/-- A slice behind a short one. -/
def sliceNal : Nal := ⟨false, [0, 0, 1, 101, 136], by decide⟩

/-- Both of them. -/
def twoNals : NalList := ⟨[parameterSetNal, sliceNal], by decide⟩

/-- They need eleven bytes, and a buffer of four grows. -/
theorem rtpFragmentize_encodes_two :
    ∃ r, rtpFragmentize i420Webrtc (({} : EncodedImage).allocate 4) 2 2 twoNals = r ∧
      r.thrown = false ∧ r.image.length = 11 ∧ r.header.length = 2 ∧
      ∃ address block, r.image.IsAllocated address block ∧
        block.take 11 = [0, 0, 0, 1, 103, 0, 0, 0, 1, 101, 136].map some := by
  obtain ⟨r, hr, hthrown, hlength, ⟨address, block, halloc, hblock, -⟩, hheader, -⟩ :=
    rtpFragmentize_encodes i420Webrtc allocatesHeader_i420Webrtc
      (({} : EncodedImage).allocate 4) 2 2 twoNals 0 (Memory.alloc UInt8 4) ⟨rfl, rfl, rfl⟩
      (by decide)
  have h11 : r.image.length = 11 := by
    have hrequired : requiredSize twoNals.nals 0 = some 11 := by decide
    rw [hrequired] at hlength
    exact (Option.some.inj hlength).symm
  rw [h11] at hblock
  exact ⟨r, hr, hthrown, h11, hheader, address, block, halloc, hblock⟩

end Caff
