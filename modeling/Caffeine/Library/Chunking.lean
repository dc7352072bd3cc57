/-
# Cutting a stream into chunks

A stream that arrives in pieces of any size is handed on in chunks of one size, and what
does not fill a chunk is kept for the next piece.

* `Chunking.Cuts` : the chunks and the rest of a stream;
* `Chunking.Cuts.unique` : they are determined by the stream;
* `Chunking.Cuts.append` : cutting goes on from the rest;
* `Chunking.round` : filling the buffer once, and `Chunking.Cuts.round` : a round is part of
  a cut.
-/
import Mathlib.Data.List.Basic
import Mathlib.Tactic.Common

namespace Chunking

variable {α : Type*}

/-- The stream `l` cut into chunks of `n`, up to a rest that does not fill one. -/
structure Cuts (n : ℕ) (l : List α) (chunks : List (List α)) (rest : List α) : Prop where
  length : ∀ chunk ∈ chunks, chunk.length = n
  rest_lt : rest.length < n
  flatten : chunks.flatten ++ rest = l

section

variable {n : ℕ} {l l' rest rest' : List α} {chunks chunks' : List (List α)}

/-- A stream that does not fill a chunk. -/
theorem cuts_of_lt (h : l.length < n) : Cuts n l [] l where
  length := by simp
  rest_lt := h
  flatten := rfl

/-- A chunk in front of a cut. -/
theorem Cuts.cons {chunk : List α} (hchunk : chunk.length = n) (h : Cuts n l chunks rest) :
    Cuts n (chunk ++ l) (chunk :: chunks) rest := by
  constructor
  · intro c hc
    rcases List.mem_cons.mp hc with rfl | hc
    · exact hchunk
    · exact h.length c hc
  · exact h.rest_lt
  · rw [List.flatten_cons, List.append_assoc, h.flatten]

/-- **Cutting goes on from the rest.** -/
theorem Cuts.append (h : Cuts n l chunks rest) (h' : Cuts n (rest ++ l') chunks' rest') :
    Cuts n (l ++ l') (chunks ++ chunks') rest' := by
  constructor
  · intro c hc
    rcases List.mem_append.mp hc with hc | hc
    · exact h.length c hc
    · exact h'.length c hc
  · exact h'.rest_lt
  · rw [List.flatten_append, List.append_assoc, h'.flatten, ← List.append_assoc, h.flatten]

/-- A rest has no chunk in it. -/
theorem Cuts.eq_nil_of_lt (h : Cuts n l chunks rest) (hlt : l.length < n) : chunks = [] := by
  rcases chunks with _ | ⟨chunk, chunks⟩
  · rfl
  · have hlen := congrArg List.length h.flatten
    have hchunk := h.length chunk List.mem_cons_self
    rw [List.flatten_cons, List.length_append, List.length_append] at hlen
    omega

/-- **The chunks are determined by the stream.** -/
theorem Cuts.unique (h : Cuts n l chunks rest) (h' : Cuts n l chunks' rest') :
    chunks = chunks' ∧ rest = rest' := by
  induction chunks generalizing l chunks' with
  | nil =>
      have hrest : rest = l := h.flatten
      have hnil := h'.eq_nil_of_lt (by rw [← hrest]; exact h.rest_lt)
      have hflat := h'.flatten
      rw [hnil] at hflat
      exact ⟨hnil.symm, hrest.trans hflat.symm⟩
  | cons chunk chunks ih =>
      have hchunk := h.length chunk List.mem_cons_self
      have hflat := h.flatten
      rw [List.flatten_cons, List.append_assoc] at hflat
      rcases chunks' with _ | ⟨chunk', chunks'⟩
      · -- the rest is too short for a chunk
        have hrest : rest' = l := h'.flatten
        have hlen := congrArg List.length hflat
        rw [List.length_append, ← hrest] at hlen
        have hlt := h'.rest_lt
        omega
      · have hchunk' := h'.length chunk' List.mem_cons_self
        have hflat' := h'.flatten
        rw [List.flatten_cons, List.append_assoc, ← hflat] at hflat'
        obtain ⟨hhead, htail⟩ := List.append_inj hflat' (by rw [hchunk, hchunk'])
        have hcuts : Cuts n (chunks.flatten ++ rest) chunks rest :=
          ⟨fun c hc => h.length c (List.mem_cons_of_mem _ hc), h.rest_lt, rfl⟩
        have hcuts' : Cuts n (chunks.flatten ++ rest) chunks' rest' :=
          ⟨fun c hc => h'.length c (List.mem_cons_of_mem _ hc), h'.rest_lt, htail⟩
        obtain ⟨hchunks, hrest⟩ := ih hcuts hcuts'
        exact ⟨by rw [hhead, hchunks], hrest⟩

end

/-! ## Rounds -/

/-- What a round leaves: the chunk it has filled, what is in the buffer, and the data that
are left. -/
structure Round (α : Type*) where
  chunk : Option (List α)
  buffer : List α
  data : List α

/-- Fill the buffer as far as the data go. -/
def round (n : ℕ) (buffer data : List α) : Round α :=
  let k := min data.length (n - buffer.length)
  if buffer.length + k = n then
    { chunk := some (buffer ++ data.take k), buffer := [], data := data.drop k }
  else { chunk := none, buffer := buffer ++ data.take k, data := data.drop k }

section

variable {n : ℕ} {buffer data rest : List α} {chunks : List (List α)}

/-- A chunk that is filled has its size. -/
theorem length_chunk_round {chunk : List α}
    (hchunk : (round n buffer data).chunk = some chunk) : chunk.length = n := by
  unfold round at hchunk
  dsimp only at hchunk
  split at hchunk
  · rename_i hfull
    rw [← Option.some.inj hchunk, List.length_append, List.length_take]
    omega
  · cases hchunk

/-- Nothing is lost in a round. -/
theorem append_round :
    (round n buffer data).chunk.toList.flatten ++ (round n buffer data).buffer ++
      (round n buffer data).data = buffer ++ data := by
  unfold round
  dsimp only
  split
  · simp
  · simp

/-- And nothing is added. -/
theorem mem_of_mem_round {x : α}
    (h : x ∈ (round n buffer data).chunk.toList.flatten ∨ x ∈ (round n buffer data).buffer ∨
      x ∈ (round n buffer data).data) : x ∈ buffer ++ data := by
  rw [← append_round (n := n), List.mem_append, List.mem_append, or_assoc]
  exact h

/-- **A round is the beginning of a cut.** -/
theorem Cuts.round
    (hcuts : Cuts n ((Chunking.round n buffer data).buffer ++ (Chunking.round n buffer data).data)
      chunks rest) :
    Cuts n (buffer ++ data) ((Chunking.round n buffer data).chunk.toList ++ chunks) rest := by
  have happend : (Chunking.round n buffer data).chunk.toList.flatten ++
      (Chunking.round n buffer data).buffer ++ (Chunking.round n buffer data).data =
      buffer ++ data := append_round
  rcases hchunk : (Chunking.round n buffer data).chunk with _ | chunk
  · rw [hchunk] at happend
    rw [← happend]
    exact hcuts
  · rw [hchunk] at happend
    rw [← happend, List.append_assoc]
    have hcons := hcuts.cons (length_chunk_round hchunk)
    simpa using hcons

end

end Chunking
