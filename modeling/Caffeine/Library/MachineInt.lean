/-
# Signed machine integers

Arithmetic in a signed two's complement type of a given number of bits.  An operation is
defined where its result is representable; `wrap` is the value that is left where a machine
drops the higher bits instead.

* `MachineInt.Fits` : the representable integers;
* `MachineInt.add`, `sub`, `mul`, `div` : the operations, undefined on overflow;
* `MachineInt.wrap` : the representable integer of the same residue.
-/
import Mathlib.Algebra.Order.Ring.Int
import Mathlib.Data.Nat.Cast.Basic
import Mathlib.Tactic.Common

namespace MachineInt

/-- The integers of a signed type. -/
def Fits (bits : ℕ) (x : ℤ) : Prop := -2 ^ (bits - 1) ≤ x ∧ x < 2 ^ (bits - 1)

instance (bits : ℕ) (x : ℤ) : Decidable (Fits bits x) :=
  inferInstanceAs (Decidable (_ ∧ _))

/-- A result, where it is representable. -/
def checked (bits : ℕ) (x : ℤ) : Option ℤ := if Fits bits x then some x else none

def add (bits : ℕ) (x y : ℤ) : Option ℤ := checked bits (x + y)

def sub (bits : ℕ) (x y : ℤ) : Option ℤ := checked bits (x - y)

def mul (bits : ℕ) (x y : ℤ) : Option ℤ := checked bits (x * y)

/-- The quotient is rounded towards zero. -/
def div (bits : ℕ) (x y : ℤ) : Option ℤ := if y = 0 then none else checked bits (x.tdiv y)

/-- The bits that are left of an integer, read as a signed number. -/
def wrap (bits : ℕ) (x : ℤ) : ℤ := x.bmod (2 ^ bits)

section

variable {bits : ℕ} {x y z : ℤ}

theorem fits_32 : Fits 32 x ↔ -2147483648 ≤ x ∧ x < 2147483648 := by
  unfold Fits
  rfl

/-- A result is defined where it is representable, and then it is exact. -/
theorem checked_eq_some : checked bits x = some y ↔ Fits bits x ∧ x = y := by
  unfold checked
  constructor
  · intro h
    split at h
    · rename_i hx
      constructor
      · exact hx
      · exact Option.some.inj h
    · cases h
  · rintro ⟨hx, rfl⟩
    rw [if_pos hx]

theorem checked_of_fits (h : Fits bits x) : checked bits x = some x := if_pos h

theorem checked_of_not_fits (h : ¬ Fits bits x) : checked bits x = none := if_neg h

/-- An integer between two of the type. -/
theorem Fits.between (hx : Fits bits x) (hz : Fits bits z) (hxy : x ≤ y) (hyz : y ≤ z) :
    Fits bits y := by
  constructor
  · exact le_trans hx.1 hxy
  · exact lt_of_le_of_lt hyz hz.2

theorem fits_zero : Fits bits 0 := by
  unfold Fits
  have hpos : (0 : ℤ) < 2 ^ (bits - 1) := Int.pow_pos (by decide)
  omega

/-- A quotient of natural numbers is representable, and rounded down. -/
theorem div_of_pos (hx : Fits bits x) (hx0 : 0 ≤ x) (hy : 0 < y) :
    div bits x y = some (x / y) := by
  unfold div
  have hquot : x.tdiv y = x / y := Int.tdiv_eq_ediv_of_nonneg hx0
  have hle : x / y ≤ x := Int.ediv_le_self y hx0
  have hnonneg : 0 ≤ x / y := Int.ediv_nonneg hx0 hy.le
  rw [if_neg hy.ne', hquot, checked_of_fits (fits_zero.between hx hnonneg hle)]

/-- A product of natural numbers, divided: only the product can overflow. -/
theorem mul_div_eq_some {α : Type} {f : ℤ → α} {a : α} (hx : 0 ≤ x) (hy : 0 ≤ y) (hz : 0 < z) :
    (do
      let product ← mul bits x y
      let quotient ← div bits product z
      pure (f quotient)) = some a ↔ Fits bits (x * y) ∧ f (x * y / z) = a := by
  by_cases hfits : Fits bits (x * y)
  · have hnonneg : 0 ≤ x * y := mul_nonneg hx hy
    unfold mul
    rw [checked_of_fits hfits, Option.bind_eq_bind, Option.bind_some,
      div_of_pos hfits hnonneg hz]
    simp [hfits]
  · unfold mul
    rw [checked_of_not_fits hfits]
    simp [hfits]

end

end MachineInt
