/-
# Blocks of memory

A block is the list of its cells.  A cell that may be read before it is written is
an `Option`, and a new block has no cell written.

* `Memory.alloc` : a new block;
* `Memory.Fits`, `Memory.write` : copying consecutive cells to an offset; a copy that does
  not fit is left undone;
* `Memory.take_write` : the cells up to the end of a copy;
* `Memory.read` : consecutive cells from an offset, `Memory.read_of_take`, and
  `Memory.read_append` for a part of cells that are known.
-/
import Mathlib.Data.List.Basic
import Mathlib.Tactic.Common

namespace Memory

variable {β : Type*}

/-- A new block of `n` cells. -/
def alloc (β : Type*) (n : ℕ) : List (Option β) := List.replicate n none

@[simp] theorem length_alloc (n : ℕ) : (alloc β n).length = n := by
  rw [alloc, List.length_replicate]

/-- `n` cells from the offset on lie inside of the block. -/
def Fits (b : List β) (offset n : ℕ) : Prop := offset + n ≤ b.length

instance (b : List β) (offset n : ℕ) : Decidable (Fits b offset n) :=
  inferInstanceAs (Decidable (offset + n ≤ b.length))

/-- Copy `data` to the cells from the offset on. -/
def write (b : List β) (offset : ℕ) (data : List β) : List β :=
  if Fits b offset data.length then
    b.take offset ++ data ++ b.drop (offset + data.length)
  else b

/-- `n` cells from the offset on. -/
def read (b : List β) (offset n : ℕ) : List β := (b.drop offset).take n

section

variable {b data : List β} {offset n : ℕ}

/-- A copy does not change the size of the block. -/
@[simp] theorem length_write : (write b offset data).length = b.length := by
  unfold write
  by_cases h : Fits b offset data.length
  · rw [if_pos h]
    unfold Fits at h
    simp only [List.length_append, List.length_take, List.length_drop]
    omega
  · rw [if_neg h]

/-- **The cells up to the end of a copy** are those in front of it and the data. -/
theorem take_write (h : Fits b offset data.length) :
    (write b offset data).take (offset + data.length) = b.take offset ++ data := by
  have hlen : (b.take offset ++ data).length = offset + data.length := by
    unfold Fits at h
    simp only [List.length_append, List.length_take]
    omega
  rw [write, if_pos h, ← hlen, List.take_left]

/-- Reading in front of `n` looks at the first `n` cells only. -/
theorem read_of_take {m : ℕ} (h : offset + n ≤ m) : read (b.take m) offset n = read b offset n := by
  unfold read
  rw [List.drop_take, List.take_take, Nat.min_eq_left (by omega)]

/-- Reading the middle of three parts. -/
theorem read_append (x y z : List β) : read (x ++ y ++ z) x.length y.length = y := by
  unfold read
  rw [List.append_assoc, List.drop_left, List.take_left]

end

end Memory
