/-
# Publishing a shared value to a last-write-wins register

Several clients write a shared value and publish it to a remote register that
keeps the argument of the last request it served.  A client that has written
looks at a gate: if the gate is open it publishes (reads the current value and
sends it), otherwise it drops its publication, and relies on the one opening
publication that precedes the opening of the gate.

The protocol loses updates in general.  It does not under two rules, which the
relation `Step` builds in:

* a writer drops its publication only if the opening publication has read a
  value at least as new as its own write (or will read later), or if the gate
  can no longer open;
* the register never serves a value after one that was read later.

`Reachable.register_of_quiet` is the outcome: when no client is busy and the gate
can still be open, the register holds the current value.
-/
import Mathlib.Logic.Relation
import Mathlib.Data.Nat.Basic
import Mathlib.Tactic.Common

namespace Publication

variable {V κ : Type*} [DecidableEq κ]

/-- A value with the number of writes it reflects. -/
structure Stamped (V : Type*) where
  value : V
  version : ℕ
  deriving DecidableEq, Repr

/-- Where a client is. -/
inductive Phase (V : Type*)
  | idle
  | wrote (version : ℕ)
  | reading
  | sent (x : Stamped V)
  | served
  deriving DecidableEq

/-- The shared value, the version the opening publication read (if it has), if
the gate can no longer open, the register, and the clients. -/
@[ext]
structure State (V κ : Type*) where
  current : Stamped V
  opened : Option ℕ
  closed : Bool
  register : Option (Stamped V)
  phase : κ → Phase V

/-- No client is busy. -/
def State.Quiet (s : State V κ) : Prop := ∀ i, s.phase i = .idle

/-- The steps of the protocol. -/
inductive Step : State V κ → State V κ → Prop
  /-- A client writes a new value. -/
  | write {s : State V κ} (i : κ) (v : V) : s.phase i = .idle →
      Step s { s with current := ⟨v, s.current.version + 1⟩
                      phase := Function.update s.phase i (.wrote (s.current.version + 1)) }
  /-- A writer drops its publication. -/
  | drop {s : State V κ} (i : κ) (n : ℕ) : s.phase i = .wrote n →
      (s.closed = true ∨ ∀ o, s.opened = some o → n ≤ o) →
      Step s { s with phase := Function.update s.phase i .idle }
  /-- A writer found the gate open. -/
  | commit {s : State V κ} (i : κ) (n : ℕ) : s.phase i = .wrote n →
      Step s { s with phase := Function.update s.phase i .reading }
  /-- A client publishes without having written. -/
  | start {s : State V κ} (i : κ) : s.phase i = .idle →
      Step s { s with phase := Function.update s.phase i .reading }
  /-- A client reads the current value and sends it. -/
  | read {s : State V κ} (i : κ) : s.phase i = .reading →
      Step s { s with phase := Function.update s.phase i (.sent s.current) }
  /-- The opening publication reads the current value and sends it. -/
  | openWith {s : State V κ} (i : κ) : s.phase i = .idle →
      Step s { s with opened := some s.current.version
                      phase := Function.update s.phase i (.sent s.current) }
  /-- The register serves a request, never one read before what it holds. -/
  | serve {s : State V κ} (i : κ) (x : Stamped V) : s.phase i = .sent x →
      (∀ y, s.register = some y → y.version ≤ x.version) →
      Step s { s with register := some x
                      phase := Function.update s.phase i .served }
  /-- A served client learns so. -/
  | finish {s : State V κ} (i : κ) : s.phase i = .served →
      Step s { s with phase := Function.update s.phase i .idle }
  /-- The gate will not open any more. -/
  | close {s : State V κ} : Step s { s with closed := true }

/-! ## The invariant -/

/-- A value somewhere between a client and the register. -/
def State.Holds (s : State V κ) (x : Stamped V) : Prop :=
  s.register = some x ∨ ∃ i, s.phase i = .sent x

/-- Someone will still publish the current value, or it is published. -/
def State.Covered (s : State V κ) : Prop :=
  s.opened = none ∨ s.Holds s.current ∨
    (∃ i, s.phase i = .wrote s.current.version) ∨ ∃ i, s.phase i = .reading

/-- **The invariant**: stamps never run ahead and identify the current value,
what the opening publication read is not lost, and the current value is covered. -/
structure State.Inv (s : State V κ) : Prop where
  stamp_le : ∀ x, s.Holds x → x.version ≤ s.current.version
  stamp_eq : ∀ x, s.Holds x → x.version = s.current.version → x = s.current
  wrote_le : ∀ i n, s.phase i = .wrote n → n ≤ s.current.version
  opened_le : ∀ o, s.opened = some o → o ≤ s.current.version
  opening : ∀ o, s.opened = some o → ∃ x, s.Holds x ∧ o ≤ x.version
  covered : s.closed = false → s.Covered

/-- What is in flight after a client that had sent nothing has moved on. -/
theorem exists_sent_update_iff {phase : κ → Phase V} {i : κ} {p : Phase V} {x : Stamped V}
    (hold : ∀ y, phase i ≠ .sent y) :
    (∃ j, Function.update phase i p j = .sent x) ↔ p = .sent x ∨ ∃ j, phase j = .sent x := by
  constructor
  · rintro ⟨j, hj⟩
    by_cases hji : j = i
    · rw [hji, Function.update_self] at hj
      exact Or.inl hj
    · rw [Function.update_of_ne hji] at hj
      exact Or.inr ⟨j, hj⟩
  · rintro (hp | ⟨j, hj⟩)
    · exact ⟨i, by rw [Function.update_self, hp]⟩
    · have hji : j ≠ i := by
        rintro rfl
        exact hold x hj
      exact ⟨j, by rw [Function.update_of_ne hji, hj]⟩

/-- A step that sends nothing new and serves nothing keeps what is held. -/
theorem holds_update_iff {s : State V κ} {i : κ} {p : Phase V} {x : Stamped V}
    (hold : ∀ y, s.phase i ≠ .sent y) (hnew : ∀ y, p ≠ .sent y) (c : Stamped V) :
    ({ s with current := c, phase := Function.update s.phase i p } : State V κ).Holds x
      ↔ s.Holds x := by
  unfold State.Holds
  dsimp only
  rw [exists_sent_update_iff hold, or_iff_right (hnew x)]

/-- Sending the current value holds it and what was held before. -/
theorem holds_send_iff {s : State V κ} {i : κ} {x : Stamped V}
    (hold : ∀ y, s.phase i ≠ .sent y) (o : Option ℕ) :
    ({ s with opened := o, phase := Function.update s.phase i (.sent s.current) }
        : State V κ).Holds x ↔ s.Holds x ∨ x = s.current := by
  unfold State.Holds
  dsimp only
  rw [exists_sent_update_iff hold, Phase.sent.injEq, or_assoc, or_comm (a := s.current = x),
    eq_comm (a := x)]

/-- What is held after serving was held before. -/
theorem holds_of_holds_serve {s : State V κ} {i : κ} {x y : Stamped V}
    (hx : s.phase i = .sent x)
    (h : ({ s with register := some x, phase := Function.update s.phase i .served }
        : State V κ).Holds y) : s.Holds y := by
  rcases h with h | ⟨j, hj⟩
  · simp only [Option.some.injEq] at h
    subst h
    exact Or.inr ⟨i, hx⟩
  · by_cases hji : j = i
    · subst hji
      simp at hj
    · simp only [Function.update_of_ne hji] at hj
      exact Or.inr ⟨j, hj⟩

/-- Serving a newest request keeps something at least as new as what was held. -/
theorem exists_holds_serve {s : State V κ} {i : κ} {x y : Stamped V}
    (hx : s.phase i = .sent x) (hnew : ∀ z, s.register = some z → z.version ≤ x.version)
    (h : s.Holds y) :
    ∃ z, ({ s with register := some x, phase := Function.update s.phase i .served }
        : State V κ).Holds z ∧ y.version ≤ z.version := by
  rcases h with h | ⟨j, hj⟩
  · exact ⟨x, Or.inl rfl, hnew y h⟩
  · by_cases hji : j = i
    · subst hji
      rw [hx, Phase.sent.injEq] at hj
      subst hj
      exact ⟨x, Or.inl rfl, le_refl _⟩
    · exact ⟨y, Or.inr ⟨j, by simp only [Function.update_of_ne hji, hj]⟩, le_refl _⟩

omit [DecidableEq κ] in
/-- A held value at least as new as the current one is the current one. -/
theorem State.Inv.holds_current {s : State V κ} (h : s.Inv) {x : Stamped V}
    (hx : s.Holds x) (hle : s.current.version ≤ x.version) : s.Holds s.current := by
  have hxc := h.stamp_eq x hx (le_antisymm (h.stamp_le x hx) hle)
  rwa [hxc] at hx

/-- A client that is neither writing nor reading is no reason for being covered. -/
theorem covered_update {s : State V κ} {i : κ} {p : Phase V}
    (hold : ∀ y, s.phase i ≠ .sent y) (hnew : ∀ y, p ≠ .sent y)
    (hwrote : s.phase i ≠ .wrote s.current.version ∨ p = .reading)
    (hreading : s.phase i ≠ .reading ∨ p = .reading) (h : s.Covered) :
    ({ s with phase := Function.update s.phase i p } : State V κ).Covered := by
  rcases h with h | h | ⟨j, hj⟩ | ⟨j, hj⟩
  · exact Or.inl h
  · exact Or.inr (Or.inl ((holds_update_iff hold hnew s.current).mpr h))
  · by_cases hji : j = i
    · subst hji
      rcases hwrote with hw | rfl
      · exact absurd hj hw
      · exact Or.inr (Or.inr (Or.inr ⟨j, by simp⟩))
    · exact Or.inr (Or.inr (Or.inl ⟨j, by simp only [Function.update_of_ne hji, hj]⟩))
  · by_cases hji : j = i
    · subst hji
      rcases hreading with hr | rfl
      · exact absurd hj hr
      · exact Or.inr (Or.inr (Or.inr ⟨j, by simp⟩))
    · exact Or.inr (Or.inr (Or.inr ⟨j, by simp only [Function.update_of_ne hji, hj]⟩))

/-! ## Every step preserves the invariant -/

/-- A client that neither was sending nor sends keeps the invariant, if the
current value stays covered. -/
theorem State.Inv.update {s : State V κ} (h : s.Inv) {i : κ} {p : Phase V}
    (hold : ∀ y, s.phase i ≠ .sent y) (hnew : ∀ y, p ≠ .sent y)
    (hwrote : ∀ n, p ≠ .wrote n)
    (hcovered : s.closed = false →
      ({ s with phase := Function.update s.phase i p } : State V κ).Covered) :
    ({ s with phase := Function.update s.phase i p } : State V κ).Inv where
  stamp_le := fun x hx => h.stamp_le x ((holds_update_iff hold hnew s.current).mp hx)
  stamp_eq := fun x hx => h.stamp_eq x ((holds_update_iff hold hnew s.current).mp hx)
  wrote_le := by
    intro j n hj
    by_cases hji : j = i
    · subst hji
      simp only [Function.update_self] at hj
      exact absurd hj (hwrote n)
    · simp only [Function.update_of_ne hji] at hj
      exact h.wrote_le j n hj
  opened_le := h.opened_le
  opening := by
    intro o ho
    obtain ⟨x, hx, hle⟩ := h.opening o ho
    exact ⟨x, (holds_update_iff hold hnew s.current).mpr hx, hle⟩
  covered := hcovered

/-- Writing keeps the invariant: the writer covers the new value. -/
theorem State.Inv.write {s : State V κ} (h : s.Inv) {i : κ} (hi : s.phase i = .idle) (v : V) :
    ({ s with current := ⟨v, s.current.version + 1⟩
              phase := Function.update s.phase i (.wrote (s.current.version + 1)) }
        : State V κ).Inv := by
  have hold : ∀ y, s.phase i ≠ .sent y := by simp [hi]
  have hiff := fun x => holds_update_iff (x := x) (p := .wrote (s.current.version + 1)) hold
    (by simp) ⟨v, s.current.version + 1⟩
  -- nothing that is held is as new as the new value
  refine ⟨?_, ?_, ?_, ?_, ?_, ?_⟩
  · intro x hx
    have := h.stamp_le x ((hiff x).mp hx)
    simp only
    omega
  · intro x hx heq
    have := h.stamp_le x ((hiff x).mp hx)
    simp only at heq
    omega
  · intro j n hj
    by_cases hji : j = i
    · subst hji
      simp only [Function.update_self, Phase.wrote.injEq] at hj
      simp only
      omega
    · simp only [Function.update_of_ne hji] at hj
      have := h.wrote_le j n hj
      simp only
      omega
  · intro o ho
    have := h.opened_le o ho
    simp only
    omega
  · intro o ho
    obtain ⟨x, hx, hle⟩ := h.opening o ho
    exact ⟨x, (hiff x).mpr hx, hle⟩
  · intro _
    exact Or.inr (Or.inr (Or.inl ⟨i, by simp⟩))

/-- Sending the current value keeps the invariant, also as the opening
publication. -/
theorem State.Inv.send {s : State V κ} (h : s.Inv) {i : κ} {o : Option ℕ}
    (hold : ∀ y, s.phase i ≠ .sent y) (ho : o = s.opened ∨ o = some s.current.version) :
    ({ s with opened := o, phase := Function.update s.phase i (.sent s.current) }
        : State V κ).Inv := by
  have hiff := fun x => holds_send_iff (x := x) hold o
  have hcurrent := (hiff s.current).mpr (Or.inr rfl)
  refine ⟨?_, ?_, ?_, ?_, ?_, ?_⟩
  · intro x hx
    rcases (hiff x).mp hx with hx | rfl
    · exact h.stamp_le x hx
    · exact le_refl _
  · intro x hx heq
    rcases (hiff x).mp hx with hx | rfl
    · exact h.stamp_eq x hx heq
    · rfl
  · intro j n hj
    by_cases hji : j = i
    · subst hji
      simp at hj
    · simp only [Function.update_of_ne hji] at hj
      exact h.wrote_le j n hj
  · intro m hm
    rcases ho with rfl | rfl
    · exact h.opened_le m hm
    · simp only [Option.some.injEq] at hm
      exact le_of_eq hm.symm
  · intro m hm
    refine ⟨s.current, hcurrent, ?_⟩
    rcases ho with rfl | rfl
    · exact h.opened_le m hm
    · simp only [Option.some.injEq] at hm
      exact le_of_eq hm.symm
  · intro _
    exact Or.inr (Or.inl hcurrent)

/-- Serving a newest request keeps the invariant. -/
theorem State.Inv.serve {s : State V κ} (h : s.Inv) {i : κ} {x : Stamped V}
    (hx : s.phase i = .sent x) (hnew : ∀ y, s.register = some y → y.version ≤ x.version) :
    ({ s with register := some x, phase := Function.update s.phase i .served }
        : State V κ).Inv := by
  refine ⟨fun y hy => h.stamp_le y (holds_of_holds_serve hx hy),
    fun y hy => h.stamp_eq y (holds_of_holds_serve hx hy), ?_, h.opened_le, ?_, ?_⟩
  · intro j n hj
    by_cases hji : j = i
    · subst hji
      simp at hj
    · simp only [Function.update_of_ne hji] at hj
      exact h.wrote_le j n hj
  · intro o ho
    obtain ⟨y, hy, hle⟩ := h.opening o ho
    obtain ⟨z, hz, hyz⟩ := exists_holds_serve hx hnew hy
    exact ⟨z, hz, le_trans hle hyz⟩
  · intro hclosed
    rcases h.covered hclosed with hc | hc | ⟨j, hj⟩ | ⟨j, hj⟩
    · exact Or.inl hc
    · -- whatever replaces the current value in the register is at least as new, so it is it
      obtain ⟨z, hz, hle⟩ := exists_holds_serve hx hnew hc
      have hz' := holds_of_holds_serve hx hz
      have hzc : z = s.current := h.stamp_eq z hz' (le_antisymm (h.stamp_le z hz') hle)
      subst hzc
      exact Or.inr (Or.inl hz)
    · have hji : j ≠ i := by
        rintro rfl
        rw [hx] at hj
        simp at hj
      exact Or.inr (Or.inr (Or.inl ⟨j, by simp only [Function.update_of_ne hji, hj]⟩))
    · have hji : j ≠ i := by
        rintro rfl
        rw [hx] at hj
        simp at hj
      exact Or.inr (Or.inr (Or.inr ⟨j, by simp only [Function.update_of_ne hji, hj]⟩))

/-- A dropped publication leaves the current value covered: where the writer was
the reason, the opening publication has read its write, and that is not lost. -/
theorem State.Inv.covered_drop {s : State V κ} (h : s.Inv) {i : κ} {n : ℕ}
    (hi : s.phase i = .wrote n) (hn : ∀ o, s.opened = some o → n ≤ o)
    (hclosed : s.closed = false) :
    ({ s with phase := Function.update s.phase i .idle } : State V κ).Covered := by
  have hold : ∀ y, s.phase i ≠ .sent y := by simp [hi]
  have hreading : s.phase i ≠ .reading ∨ Phase.idle = (.reading : Phase V) := by simp [hi]
  by_cases hcur : n = s.current.version
  · -- the writer was the reason, and the opening publication has read its write
    subst hcur
    by_cases ho : s.opened = none
    · exact Or.inl ho
    · obtain ⟨o, ho⟩ := Option.ne_none_iff_exists'.mp ho
      obtain ⟨x, hx, hle⟩ := h.opening o ho
      have hc := h.holds_current hx (le_trans (hn o ho) hle)
      exact Or.inr (Or.inl ((holds_update_iff hold (by simp) s.current).mpr hc))
  · refine covered_update hold (by simp) (Or.inl ?_) hreading (h.covered hclosed)
    rw [hi]
    simpa using hcur

/-- **Step lemma.** -/
theorem State.Inv.step {s s' : State V κ} (h : s.Inv) (hs : Step s s') : s'.Inv := by
  cases hs with
  | write i v hi => exact h.write hi v
  | drop i n hi hn =>
      refine h.update (by simp [hi]) (by simp) (by simp) (fun hclosed => ?_)
      rcases hn with hn | hn
      · simp [hclosed] at hn
      · exact h.covered_drop hi hn hclosed
  | commit i n hi =>
      refine h.update (by simp [hi]) (by simp) (by simp) (fun hclosed => ?_)
      exact Or.inr (Or.inr (Or.inr ⟨i, by simp⟩))
  | start i hi =>
      refine h.update (by simp [hi]) (by simp) (by simp) (fun hclosed => ?_)
      exact Or.inr (Or.inr (Or.inr ⟨i, by simp⟩))
  | read i hi => exact h.send (by simp [hi]) (Or.inl rfl)
  | openWith i hi => exact h.send (by simp [hi]) (Or.inr rfl)
  | serve i x hi hnew => exact h.serve hi hnew
  | finish i hi =>
      refine h.update (by simp [hi]) (by simp) (by simp) (fun hclosed => ?_)
      exact covered_update (by simp [hi]) (by simp) (by simp [hi]) (by simp [hi])
        (h.covered hclosed)
  | close => exact ⟨h.stamp_le, h.stamp_eq, h.wrote_le, h.opened_le, h.opening, by simp⟩

/-! ## Reachable states -/

/-- Nothing written, nothing published, no client busy. -/
structure State.Fresh (s : State V κ) : Prop where
  opened : s.opened = none
  register : s.register = none
  quiet : s.Quiet

/-- Any number of steps, from a fresh state. -/
def Reachable (s : State V κ) : Prop :=
  ∃ s₀ : State V κ, s₀.Fresh ∧ Relation.ReflTransGen Step s₀ s

omit [DecidableEq κ] in
theorem State.Fresh.inv {s : State V κ} (h : s.Fresh) : s.Inv where
  stamp_le := by
    rintro x (hx | ⟨i, hi⟩)
    · simp [h.register] at hx
    · simp [h.quiet i] at hi
  stamp_eq := by
    rintro x (hx | ⟨i, hi⟩)
    · simp [h.register] at hx
    · simp [h.quiet i] at hi
  wrote_le := by
    intro i n hi
    simp [h.quiet i] at hi
  opened_le := by simp [h.opened]
  opening := by simp [h.opened]
  covered := fun _ => Or.inl h.opened

/-- **Run lemma.** -/
theorem Reachable.inv {s : State V κ} (h : Reachable s) : s.Inv := by
  obtain ⟨s₀, hfresh, hsteps⟩ := h
  induction hsteps with
  | refl => exact hfresh.inv
  | tail _ hs ih => exact ih.step hs

/-- **No lost publication.**  When no client is busy, the opening publication
has been read and the gate can still be open, the register holds the current
value. -/
theorem Reachable.register_of_quiet {s : State V κ} (h : Reachable s) (hquiet : s.Quiet)
    (hopened : s.opened ≠ none) (hclosed : s.closed = false) :
    s.register = some s.current := by
  rcases h.inv.covered hclosed with hc | (hc | ⟨i, hi⟩) | ⟨i, hi⟩ | ⟨i, hi⟩
  · exact absurd hc hopened
  · exact hc
  all_goals simp [hquiet i] at hi

end Publication
