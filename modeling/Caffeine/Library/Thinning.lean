/-
# Thinning a sequence

The greedy subsequence of a sequence of instants in which each one is at least a given gap
after the one that was kept before it.  The instants need not be sorted.

* `Thinning.thin` : the instants that are kept, and `Thinning.lastKept` : the last of them;
* `Thinning.thin_append` : thinning goes on from the instant that was kept last;
* `Thinning.spaced_thin` : the kept instants are spaced;
* `Thinning.Spaced.span` : a window of spaced instants is at least as long as its gaps.
-/
import Mathlib.Algebra.Order.Group.Defs
import Mathlib.Data.List.Chain
import Mathlib.Tactic.Abel

namespace Thinning

variable {α : Type*} [AddCommGroup α] [LinearOrder α]

/-- The instants that are kept, where `last` was kept before them. -/
def thin (gap last : α) : List α → List α
  | [] => []
  | t :: ts => if gap ≤ t - last then t :: thin gap t ts else thin gap last ts

/-- The instant that was kept last. -/
def lastKept (gap last : α) : List α → α
  | [] => last
  | t :: ts => if gap ≤ t - last then lastKept gap t ts else lastKept gap last ts

/-- Neighbours are at least the gap apart. -/
def Spaced (gap : α) (l : List α) : Prop := l.IsChain (fun t u => gap ≤ u - t)

section

variable {gap last t : α} {ts : List α}

theorem thin_cons_of_le (h : gap ≤ t - last) :
    thin gap last (t :: ts) = t :: thin gap t ts := if_pos h

theorem thin_cons_of_lt (h : ¬ gap ≤ t - last) :
    thin gap last (t :: ts) = thin gap last ts := if_neg h

theorem lastKept_cons_of_le (h : gap ≤ t - last) :
    lastKept gap last (t :: ts) = lastKept gap t ts := if_pos h

theorem lastKept_cons_of_lt (h : ¬ gap ≤ t - last) :
    lastKept gap last (t :: ts) = lastKept gap last ts := if_neg h

/-- **Thinning goes on** from the instant that was kept last. -/
theorem thin_append (gap last : α) (ts us : List α) :
    thin gap last (ts ++ us) = thin gap last ts ++ thin gap (lastKept gap last ts) us := by
  induction ts generalizing last with
  | nil => rfl
  | cons t ts ih =>
      rw [List.cons_append]
      by_cases h : gap ≤ t - last
      · rw [thin_cons_of_le h, thin_cons_of_le h, lastKept_cons_of_le h, ih t, List.cons_append]
      · rw [thin_cons_of_lt h, thin_cons_of_lt h, lastKept_cons_of_lt h, ih last]

theorem lastKept_append (gap last : α) (ts us : List α) :
    lastKept gap last (ts ++ us) = lastKept gap (lastKept gap last ts) us := by
  induction ts generalizing last with
  | nil => rfl
  | cons t ts ih =>
      rw [List.cons_append]
      by_cases h : gap ≤ t - last
      · rw [lastKept_cons_of_le h, lastKept_cons_of_le h, ih t]
      · rw [lastKept_cons_of_lt h, lastKept_cons_of_lt h, ih last]

/-- It is the last of the kept instants, where there is one. -/
theorem lastKept_eq_getLastD (gap last : α) (ts : List α) :
    lastKept gap last ts = (thin gap last ts).getLastD last := by
  induction ts generalizing last with
  | nil => rfl
  | cons t ts ih =>
      by_cases h : gap ≤ t - last
      · rw [lastKept_cons_of_le h, thin_cons_of_le h, ih t, List.getLastD_cons]
      · rw [lastKept_cons_of_lt h, thin_cons_of_lt h, ih last]

/-- It is one of the instants, or the one before them. -/
theorem lastKept_mem (gap last : α) (ts : List α) : lastKept gap last ts ∈ last :: ts := by
  induction ts generalizing last with
  | nil => exact List.mem_cons_self
  | cons t ts ih =>
      by_cases h : gap ≤ t - last
      · rw [lastKept_cons_of_le h]
        exact List.mem_cons_of_mem last (ih t)
      · rw [lastKept_cons_of_lt h]
        rcases List.mem_cons.mp (ih last) with hlast | hmem
        · rw [hlast]
          exact List.mem_cons_self
        · exact List.mem_cons_of_mem last (List.mem_cons_of_mem t hmem)

/-- **The kept instants are spaced**, also from the one before them. -/
theorem spaced_thin (gap last : α) (ts : List α) : Spaced gap (last :: thin gap last ts) := by
  induction ts generalizing last with
  | nil => exact List.isChain_singleton last
  | cons t ts ih =>
      by_cases h : gap ≤ t - last
      · rw [thin_cons_of_le h]
        exact List.isChain_cons_cons.mpr ⟨h, ih t⟩
      · rw [thin_cons_of_lt h]
        exact ih last

variable [IsOrderedAddMonoid α] {l : List α}

/-- Spaced instants do not decrease. -/
theorem Spaced.pairwise (hgap : 0 ≤ gap) (h : Spaced gap l) : l.Pairwise (· ≤ ·) := by
  apply List.IsChain.pairwise
  apply List.IsChain.imp _ h
  intro t u htu
  exact sub_nonneg.mp (le_trans hgap htu)

/-- **Windows of spaced instants.**  Over `k` gaps they span `k` times the gap. -/
theorem Spaced.span (h : Spaced gap l) (i k : ℕ) (hk : i + k < l.length) :
    k • gap ≤ l[i + k] - l[i] := by
  induction k with
  | zero => simp
  | succ k ih =>
      have hprev := ih (by omega)
      have hnext : gap ≤ l[i + k + 1] - l[i + k] := List.isChain_iff_getElem.mp h (i + k) hk
      calc (k + 1) • gap = k • gap + gap := succ_nsmul gap k
        _ ≤ (l[i + k] - l[i]) + (l[i + k + 1] - l[i + k]) := add_le_add hprev hnext
        _ = l[i + (k + 1)] - l[i] := by
            show _ = l[i + k + 1] - l[i]
            abel

end

end Thinning
