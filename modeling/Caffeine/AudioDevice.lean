/-
# The audio device

`AudioDevice::sendAudio` of `src/AudioDevice.cpp` cuts what the application sends into
chunks of 10 ms.  Its loop is modelled round by round: `CopyLoop` holds the local variables,
and a round that copies from behind the data or to behind the buffer has no result.  The
code does not depend on what the samples are, and the cells are of any type.

In the subtractions of the loop neither difference wraps, `toCopy` being the smaller one of
the minuends, and `bufferIndex` stays within the size of the buffer.
-/
import Mathlib.Algebra.Ring.Nat
import Caffeine.Library.Chunking
import Caffeine.Library.Machine
import Caffeine.Library.Memory

namespace Caff

open Chunking (Cuts)

/-! ## The device -/

def channels : ℕ := 2
def sampleSize : ℕ := 2
def sampleRate : ℕ := 48000

def chunkSamples : ℕ := sampleRate / 100
def chunkSize : ℕ := chunkSamples * sampleSize * channels

theorem chunkSize_eq : chunkSize = 1920 := rfl

/-- The buffer and its index. -/
structure AudioDevice (α : Type) where
  buffer : List α
  bufferIndex : ℕ
  deriving DecidableEq, Repr

/-- The local variables of `sendAudio`. -/
structure CopyLoop (α : Type) where
  data : List α
  remainingData : ℕ
  remainingBuffer : ℕ
  deriving DecidableEq, Repr

namespace AudioDevice

variable {α : Type}

/-- A new device, its buffer filled with the default of the cells. -/
def init [Inhabited α] : AudioDevice α where
  buffer := List.replicate chunkSize default
  bufferIndex := 0

/-- `sendAudio` up to its loop. -/
def beginCopy (d : AudioDevice α) (data : List α) (samplesPerChannel : ℕ) : CopyLoop α where
  data := data
  remainingData := (samplesPerChannel * channels * sampleSize) % 2 ^ 64
  remainingBuffer := (d.buffer.length + 2 ^ 64 - d.bufferIndex) % 2 ^ 64

end AudioDevice

def CopyLoop.toCopy {α : Type} (l : CopyLoop α) : ℕ := min l.remainingData l.remainingBuffer

namespace AudioDevice

variable {α : Type}

/-- One round of the loop, with the chunk that is handed to `RecordedDataIsAvailable`: as many
samples as it is told, from the beginning of the buffer. -/
def copyRound (d : AudioDevice α) (l : CopyLoop α) :
    Option (AudioDevice α × CopyLoop α × Option (List α)) :=
  if l.toCopy ≤ l.data.length ∧ Memory.Fits d.buffer d.bufferIndex l.toCopy then
    let buffer := Memory.write d.buffer d.bufferIndex (l.data.take l.toCopy)
    let data := l.data.drop l.toCopy
    let bufferIndex := d.bufferIndex + l.toCopy
    let remainingData := l.remainingData - l.toCopy
    let remainingBuffer := l.remainingBuffer - l.toCopy
    if remainingBuffer = 0 then
      some ({ buffer, bufferIndex := 0 },
        { data, remainingData, remainingBuffer := buffer.length },
        some (buffer.take (chunkSamples * (sampleSize * channels))))
    else some ({ buffer, bufferIndex }, { data, remainingData, remainingBuffer }, none)
  else none

/-- A round takes some of the data. -/
theorem remainingData_lt_of_copyRound {d d' : AudioDevice α} {l l' : CopyLoop α}
    {chunk : Option (List α)} (h : d.copyRound l = some (d', l', chunk)) (hcopy : l.toCopy ≠ 0) :
    l'.remainingData < l.remainingData := by
  have hle : l.toCopy ≤ l.remainingData := Nat.min_le_left _ _
  unfold copyRound at h
  split at h
  · dsimp only at h
    split at h
    · rw [Option.some.injEq, Prod.mk.injEq, Prod.mk.injEq] at h
      rw [← h.2.1]
      show l.remainingData - l.toCopy < l.remainingData
      omega
    · rw [Option.some.injEq, Prod.mk.injEq, Prod.mk.injEq] at h
      rw [← h.2.1]
      show l.remainingData - l.toCopy < l.remainingData
      omega
  · cases h

/-- The loop, with the chunks it hands on. -/
def copyLoop (d : AudioDevice α) (l : CopyLoop α) : Option (AudioDevice α × List (List α)) :=
  if _hcopy : l.toCopy = 0 then some (d, [])
  else
    match _h : d.copyRound l with
    | none => none
    | some (d', l', chunk) => (copyLoop d' l').map fun (d, chunks) => (d, chunk.toList ++ chunks)
termination_by l.remainingData
decreasing_by exact remainingData_lt_of_copyRound _h _hcopy

/-- `sendAudio`. -/
def sendAudio (d : AudioDevice α) (data : List α) (samplesPerChannel : ℕ) :
    Option (AudioDevice α × List (List α)) :=
  d.copyLoop (d.beginCopy data samplesPerChannel)

end AudioDevice

/-- The calls of `sendAudio` on one device: the data and the samples per channel. -/
def audioMachine (α : Type) : Machine (AudioDevice α) (List α × ℕ) (List α) :=
  ⟨fun d call => d.sendAudio call.1 call.2⟩

/-- A call passes four bytes for every sample, and their number does not wrap. -/
def WellSized {α : Type} (call : List α × ℕ) : Prop :=
  call.1.length = 4 * call.2 ∧ 4 * call.2 < 2 ^ 64

/-! ## A round of the loop -/

namespace AudioDevice

variable {α : Type} {d d' : AudioDevice α} {l l' : CopyLoop α} {data : List α}

/-- What is in the buffer. -/
def pending (d : AudioDevice α) : List α := d.buffer.take d.bufferIndex

/-- The buffer has its size and is not full. -/
structure Ready (d : AudioDevice α) : Prop where
  length : d.buffer.length = chunkSize
  index_lt : d.bufferIndex < chunkSize

theorem Ready.length_pending (h : d.Ready) : d.pending.length = d.bufferIndex := by
  have := h.length
  have := h.index_lt
  rw [pending, List.length_take]
  omega

theorem ready_init [Inhabited α] : (init : AudioDevice α).Ready where
  length := List.length_replicate
  index_lt := by
    show 0 < chunkSize
    decide

/-- The local variables before a round. -/
structure Looping (d : AudioDevice α) (l : CopyLoop α) : Prop where
  ready : d.Ready
  data : l.data.length = l.remainingData
  buffer : d.bufferIndex + l.remainingBuffer = chunkSize

theorem Ready.looping_beginCopy (h : d.Ready) {n : ℕ} (hsize : WellSized (data, n)) :
    d.Looping (d.beginCopy data n) := by
  have hlen := h.length
  have hlt := h.index_lt
  have hchunk := chunkSize_eq
  have hdata : data.length = 4 * n := hsize.1
  have hwrap : 4 * n < 2 ^ 64 := hsize.2
  constructor
  · exact h
  · show data.length = (n * channels * sampleSize) % 2 ^ 64
    unfold channels sampleSize
    omega
  · show d.bufferIndex + (d.buffer.length + 2 ^ 64 - d.bufferIndex) % 2 ^ 64 = chunkSize
    omega

/-- **A round of the loop is a round of cutting**: it stays inside of the buffer and the
data, and on what is in the buffer and what is left of the data it does what
`Chunking.round` says. -/
theorem Looping.copyRound (h : d.Looping l) :
    ∃ d' l', d.copyRound l = some (d', l', (Chunking.round chunkSize d.pending l.data).chunk) ∧
      d'.Looping l' ∧ d'.pending = (Chunking.round chunkSize d.pending l.data).buffer ∧
      l'.data = (Chunking.round chunkSize d.pending l.data).data := by
  have hlength := h.ready.length
  have hlt := h.ready.index_lt
  have hdata := h.data
  have hbuffer := h.buffer
  have hpending := h.ready.length_pending
  have hcopy : l.toCopy = min l.data.length (chunkSize - d.pending.length) := by
    unfold CopyLoop.toCopy
    rw [hdata, hpending]
    congr 1
    omega
  have htake : (l.data.take l.toCopy).length = l.toCopy := by
    rw [List.length_take, hcopy]
    omega
  have hfits : Memory.Fits d.buffer d.bufferIndex l.toCopy := by
    unfold Memory.Fits
    rw [hlength, hcopy]
    omega
  have hwritten : (Memory.write d.buffer d.bufferIndex (l.data.take l.toCopy)).take
      (d.bufferIndex + l.toCopy) = d.pending ++ l.data.take l.toCopy := by
    have hfits' : Memory.Fits d.buffer d.bufferIndex (l.data.take l.toCopy).length := by
      rw [htake]
      exact hfits
    have htakes := Memory.take_write hfits'
    rwa [htake] at htakes
  unfold AudioDevice.copyRound Chunking.round
  rw [if_pos ⟨by rw [hcopy]; exact Nat.min_le_left _ _, hfits⟩, ← hcopy]
  dsimp only
  have hlength' : (Memory.write d.buffer d.bufferIndex (l.data.take l.toCopy)).length =
      chunkSize := by
    rw [Memory.length_write, hlength]
  have hleft : (l.data.drop l.toCopy).length = l.remainingData - l.toCopy := by
    rw [List.length_drop, hdata]
  rw [hpending]
  by_cases hfull : d.bufferIndex + l.toCopy = chunkSize
  · -- the buffer is full, and starts over
    rw [hfull] at hwritten
    rw [if_pos (by omega), if_pos hfull, ← hwritten]
    refine ⟨_, _, rfl, ⟨⟨hlength', ?_⟩, hleft, ?_⟩, rfl, rfl⟩
    · show 0 < chunkSize
      decide
    · show 0 + (Memory.write d.buffer d.bufferIndex (l.data.take l.toCopy)).length = chunkSize
      omega
  · rw [if_neg (by omega), if_neg hfull]
    refine ⟨_, _, rfl, ⟨⟨hlength', ?_⟩, hleft, ?_⟩, hwritten, rfl⟩
    · show d.bufferIndex + l.toCopy < chunkSize
      omega
    · show d.bufferIndex + l.toCopy + (l.remainingBuffer - l.toCopy) = chunkSize
      omega

/-- The loop is left when there is nothing to copy. -/
theorem copyLoop_of_toCopy_eq_zero (hcopy : l.toCopy = 0) : d.copyLoop l = some (d, []) := by
  rw [AudioDevice.copyLoop, dif_pos hcopy]

/-- Otherwise it goes on after a round. -/
theorem copyLoop_of_copyRound {d'' : AudioDevice α} {chunk : Option (List α)}
    {chunks : List (List α)} (hcopy : l.toCopy ≠ 0)
    (hround : d.copyRound l = some (d', l', chunk))
    (hrest : d'.copyLoop l' = some (d'', chunks)) :
    d.copyLoop l = some (d'', chunk.toList ++ chunks) := by
  rw [AudioDevice.copyLoop, dif_neg hcopy]
  split
  · rename_i hnone
    rw [hround] at hnone
    cases hnone
  · rename_i hsome
    rw [hround, Option.some.injEq, Prod.mk.injEq, Prod.mk.injEq] at hsome
    obtain ⟨rfl, rfl, rfl⟩ := hsome
    rw [hrest]
    rfl

/-- **The loop cuts what is in the buffer and the data**, and its copies stay inside of them. -/
theorem Looping.copyLoop (h : d.Looping l) :
    ∃ d' chunks, d.copyLoop l = some (d', chunks) ∧ d'.Ready ∧
      Cuts chunkSize (d.pending ++ l.data) chunks d'.pending := by
  induction hn : l.remainingData using Nat.strongRecOn generalizing d l with
  | _ n ih =>
      have hlt := h.ready.index_lt
      have hbuffer := h.buffer
      by_cases hcopy : l.toCopy = 0
      · -- there is room in the buffer, so no data are left
        have hnone : l.data.length = 0 := by
          rw [h.data]
          unfold CopyLoop.toCopy at hcopy
          omega
        rw [List.length_eq_zero_iff.mp hnone, List.append_nil]
        refine ⟨d, [], copyLoop_of_toCopy_eq_zero hcopy, h.ready, Chunking.cuts_of_lt ?_⟩
        rw [h.ready.length_pending]
        exact hlt
      · obtain ⟨d', l', hround, hloop, hpending, hdata⟩ := h.copyRound
        have hless := remainingData_lt_of_copyRound hround hcopy
        obtain ⟨d'', chunks, hrest, hready, hcuts⟩ := ih l'.remainingData (by omega) hloop rfl
        refine ⟨d'', _, copyLoop_of_copyRound hcopy hround hrest, hready, ?_⟩
        rw [hpending, hdata] at hcuts
        exact hcuts.round

/-- **One call.** -/
theorem Ready.sendAudio (h : d.Ready) {n : ℕ} (hsize : WellSized (data, n)) :
    ∃ d' chunks, d.sendAudio data n = some (d', chunks) ∧ d'.Ready ∧
      Cuts chunkSize (d.pending ++ data) chunks d'.pending :=
  (h.looping_beginCopy hsize).copyLoop

end AudioDevice

/-! ## Sequences of calls -/

section

variable {α : Type}

/-- **Step by step**: a sequence of calls cuts what they pass in a row. -/
theorem AudioDevice.Ready.exec {d : AudioDevice α} (h : d.Ready) (calls : List (List α × ℕ))
    (hsize : ∀ call ∈ calls, WellSized call) :
    ∃ d' chunks, (audioMachine α).exec d calls = some (d', chunks) ∧ d'.Ready ∧
      Cuts chunkSize (d.pending ++ calls.flatMap Prod.fst) chunks d'.pending := by
  induction calls generalizing d with
  | nil =>
      refine ⟨d, [], rfl, h, ?_⟩
      rw [List.flatMap_nil, List.append_nil]
      apply Chunking.cuts_of_lt
      rw [h.length_pending]
      exact h.index_lt
  | cons call rest ih =>
      obtain ⟨hcall, hrest⟩ := List.forall_mem_cons.mp hsize
      obtain ⟨d', chunks, hsend, hready, hcuts⟩ := h.sendAudio hcall
      obtain ⟨d'', chunks', hexec, hready', hcuts'⟩ := ih hready hrest
      refine ⟨d'', chunks ++ chunks', ?_, hready', ?_⟩
      · have hstep : (audioMachine α).step d call = some (d', chunks) := hsend
        rw [Machine.exec, hstep]
        simp only [hexec]
      · rw [List.flatMap_cons, ← List.append_assoc]
        exact hcuts.append hcuts'

/-- **The chunks of a device.**  Every sequence of calls that pass four bytes for each sample
runs without leaving the buffer or the data; its chunks have 1920 bytes, and with what is in
the buffer they are the input; and every other sequence of calls with the same input
hands on the same chunks. -/
theorem chunks_of_audioDevice [Inhabited α] (calls : List (List α × ℕ))
    (hsize : ∀ call ∈ calls, call.1.length = 4 * call.2 ∧ 4 * call.2 < 2 ^ 64) :
    ∃ d chunks, (audioMachine α).exec .init calls = some (d, chunks) ∧
      (∀ chunk ∈ chunks, chunk.length = 1920) ∧
      chunks.flatten ++ d.buffer.take d.bufferIndex = calls.flatMap Prod.fst ∧
      d.bufferIndex < 1920 ∧
      ∀ calls' : List (List α × ℕ),
        (∀ call ∈ calls', call.1.length = 4 * call.2 ∧ 4 * call.2 < 2 ^ 64) →
        calls'.flatMap Prod.fst = calls.flatMap Prod.fst →
        ∃ d', (audioMachine α).exec .init calls' = some (d', chunks) := by
  obtain ⟨d, chunks, hexec, hready, hcuts⟩ := AudioDevice.ready_init.exec calls hsize
  refine ⟨d, chunks, hexec, hcuts.length, hcuts.flatten, hready.index_lt, ?_⟩
  intro calls' hsize' hsame
  obtain ⟨d', chunks', hexec', -, hcuts'⟩ := AudioDevice.ready_init.exec calls' hsize'
  rw [hsame] at hcuts'
  rw [(hcuts.unique hcuts').1]
  exact ⟨d', hexec'⟩

end

/-- Two calls of one and of 480 samples hand on a chunk and keep a sample. -/
theorem chunks_of_audioDevice_two :
    ∃ d chunks, (audioMachine UInt8).exec .init
        [(List.replicate 4 1, 1), (List.replicate 1920 2, 480)] = some (d, chunks) ∧
      (∀ chunk ∈ chunks, chunk.length = 1920) ∧
      chunks.flatten ++ d.buffer.take d.bufferIndex =
        List.replicate 4 1 ++ List.replicate 1920 2 := by
  have hsize : ∀ call ∈ ([(List.replicate 4 1, 1), (List.replicate 1920 2, 480)] :
      List (List UInt8 × ℕ)), call.1.length = 4 * call.2 ∧ 4 * call.2 < 2 ^ 64 := by
    intro call hcall
    simp only [List.mem_cons, List.not_mem_nil, or_false] at hcall
    rcases hcall with rfl | rfl
    · exact ⟨List.length_replicate, by decide⟩
    · exact ⟨List.length_replicate, by decide⟩
  obtain ⟨d, chunks, hexec, hlength, hflatten, -⟩ := chunks_of_audioDevice _ hsize
  refine ⟨d, chunks, hexec, hlength, ?_⟩
  rw [hflatten, List.flatMap_cons, List.flatMap_cons, List.flatMap_nil, List.append_nil]

end Caff
