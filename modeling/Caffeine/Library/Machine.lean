/-
# Machines with outputs, and the rules for their runs

A machine is a partial step function: from a state and an input it is either
not enabled, or it moves to a new state and emits a list of outputs.  Any
nondeterminism of the modelled system (scheduling, answers of the outside
world) is put into the inputs, so a machine can be executed.

* `Machine.holds_of_some`, `holds_of_guard`, `holds_of_ite` : a property of the result of
  a step from the equation of the step, for inversion lemmas;
* `Machine.Run` : runs of any length, with the list of steps taken (the state
  before the step and the input) and the list of outputs emitted;
* `Machine.Run.induction_on_steps` : what every step preserves, every run
  preserves, possibly under a condition on the steps of the run;
* `Machine.Run.meets_of_invariant` : the same for every state on the way, and
  `forall_states_iff` : when it holds of every state, exactly;
* `Machine.Run.exists_step_of_output` : the step that emitted an output, and
  `exists_step_of_later_output` : the step that emitted one after another;
* `Machine.Run.split` : the run before a step of a run, the step, and the run after it;
* `Machine.Extends` : a machine that has more state than another and takes its steps, and
  `Machine.Run.exists_of_lifts` : it can take all its runs;
* `Machine.Reads` : a machine that reads its inputs as those of another, some of them as none
  at all, and `Machine.Reads.run_iff` : both have the same runs;
* `Machine.Run.countP_add_le` : a variant bounds the steps of a kind that a run takes, and
  `Machine.exists_run_of_variant` and `Machine.Run.exists_of_variant` : it leads on to a goal;
* `Machine.Run.of_exec` : executing a list of inputs gives a run, and
  `Machine.Run.eq_of_inputs` : the inputs of a run determine it.
-/
import Mathlib.Data.List.Basic
import Mathlib.Tactic.Common

/-- A machine over states `σ`, inputs `ι` and outputs `ε`. -/
structure Machine (σ ι ε : Type*) where
  step : σ → ι → Option (σ × List ε)

namespace Machine

variable {σ ι ε : Type*} (M : Machine σ ι ε)

/-! ## Results of a step -/

section

variable {P : σ → List ε → Prop} {s' : σ} {out : List ε}

/-- What holds of where a step goes. -/
theorem holds_of_some {r : σ × List ε} (h : some r = some (s', out)) (hr : P r.1 r.2) :
    P s' out := by
  rw [Option.some.injEq] at h
  rw [h] at hr
  exact hr

/-- What holds of where a step goes that is guarded by `c`. -/
theorem holds_of_guard {c : Prop} [Decidable c] {r : σ × List ε}
    (h : (if c then some r else none) = some (s', out)) (hr : c → P r.1 r.2) : P s' out := by
  by_cases hc : c
  · rw [if_pos hc] at h
    exact holds_of_some h (hr hc)
  · rw [if_neg hc] at h
    cases h

/-- What holds of where a step goes that tests `c`. -/
theorem holds_of_ite {c : Prop} [Decidable c] {r r' : σ × List ε}
    (h : (if c then some r else some r') = some (s', out))
    (hthen : c → P r.1 r.2) (helse : ¬ c → P r'.1 r'.2) : P s' out := by
  by_cases hc : c
  · rw [if_pos hc] at h
    exact holds_of_some h (hthen hc)
  · rw [if_neg hc] at h
    exact holds_of_some h (helse hc)

end

/-! ## Runs -/

/-- `M.Run s tr es s'`: the machine can go from `s` to `s'`; `tr` lists the
steps in order, each as the state before it and its input, and `es` the outputs
in order. -/
inductive Run : σ → List (σ × ι) → List ε → σ → Prop
  | refl (s : σ) : Run s [] [] s
  | snoc {s s' s'' : σ} {tr : List (σ × ι)} {es out : List ε} {a : ι} :
      Run s tr es s' →
      M.step s' a = some (s'', out) →
      Run s (tr ++ [(s', a)]) (es ++ out) s''

/-- Every step of the list `tr` satisfies the condition `C`. -/
def Meets (C : σ → ι → Prop) (tr : List (σ × ι)) : Prop :=
  ∀ p ∈ tr, C p.1 p.2

instance {C : σ → ι → Prop} [∀ s a, Decidable (C s a)] (tr : List (σ × ι)) :
    Decidable (Meets C tr) :=
  inferInstanceAs (Decidable (∀ p ∈ tr, C p.1 p.2))

@[simp] theorem meets_nil (C : σ → ι → Prop) : Meets C ([] : List (σ × ι)) := by
  intro p hp
  simp at hp

theorem meets_snoc {C : σ → ι → Prop} {tr : List (σ × ι)} {s : σ} {a : ι} :
    Meets C (tr ++ [(s, a)]) ↔ Meets C tr ∧ C s a := by
  constructor
  · intro h
    refine ⟨fun p hp => h p (List.mem_append_left _ hp), ?_⟩
    exact h (s, a) (List.mem_append_right _ (List.mem_singleton_self _))
  · rintro ⟨htr, hlast⟩ p hp
    rcases List.mem_append.mp hp with hp | hp
    · exact htr p hp
    · rw [List.mem_singleton.mp hp]
      exact hlast

/-- The condition is met by the steps before a step. -/
theorem Meets.of_append {C : σ → ι → Prop} {tr tr' : List (σ × ι)} (h : Meets C (tr ++ tr')) :
    Meets C tr :=
  fun p hp => h p (List.mem_append_left tr' hp)

variable {M}

/-- **Run induction.**  A property of the steps, the outputs and the state that
holds at the start and is preserved by every step holds of every run. -/
theorem Run.induction_on_trace {I : List (σ × ι) → List ε → σ → Prop} {s : σ}
    (hinit : I [] [] s)
    (hstep : ∀ tr es s' a s'' out, I tr es s' → M.step s' a = some (s'', out) →
      I (tr ++ [(s', a)]) (es ++ out) s'')
    {tr : List (σ × ι)} {es : List ε} {s' : σ} (hrun : M.Run s tr es s') :
    I tr es s' := by
  induction hrun with
  | refl => exact hinit
  | snoc _ hs ih => exact hstep _ _ _ _ _ _ ih hs

/-- **Conditional run induction.**  As `Run.induction_on_trace`, for the runs
all of whose steps meet a condition, and with no account of the steps. -/
theorem Run.induction_on_steps {C : σ → ι → Prop} {I : List ε → σ → Prop} {s : σ}
    (hinit : I [] s)
    (hstep : ∀ es s' a s'' out, I es s' → C s' a → M.step s' a = some (s'', out) →
      I (es ++ out) s'')
    {tr : List (σ × ι)} {es : List ε} {s' : σ} (hrun : M.Run s tr es s')
    (hmeets : Meets C tr) :
    I es s' := by
  induction hrun with
  | refl => exact hinit
  | snoc _ hs ih =>
      obtain ⟨htr, hlast⟩ := meets_snoc.mp hmeets
      exact hstep _ _ _ _ _ (ih htr) hlast hs

/-- **Invariants.**  What every step preserves holds in every state reached. -/
theorem Run.invariant {I : σ → Prop} {s : σ} (hinit : I s)
    (hstep : ∀ s' a s'' out, I s' → M.step s' a = some (s'', out) → I s'')
    {tr : List (σ × ι)} {es : List ε} {s' : σ} (hrun : M.Run s tr es s') :
    I s' :=
  hrun.induction_on_trace (I := fun _ _ s' => I s') hinit
    (fun _ _ s' a s'' out h hs => hstep s' a s'' out h hs)

/-- **Every state of a run.**  What the steps preserve that meet a condition holds before
each step of a run that meets it, and at its end. -/
theorem Run.meets_of_invariant {C : σ → ι → Prop} {I : σ → Prop} {s : σ} (hinit : I s)
    (hstep : ∀ s' a s'' out, I s' → C s' a → M.step s' a = some (s'', out) → I s'')
    {tr : List (σ × ι)} {es : List ε} {s' : σ} (hrun : M.Run s tr es s')
    (hmeets : Meets C tr) :
    Meets (fun s _ => I s) tr ∧ I s' := by
  induction hrun with
  | refl => exact ⟨meets_nil _, hinit⟩
  | snoc _ hs ih =>
      obtain ⟨htr, hlast⟩ := meets_snoc.mp hmeets
      obtain ⟨hall, hI⟩ := ih htr
      exact ⟨meets_snoc.mpr ⟨hall, hI⟩, hstep _ _ _ _ hI hlast hs⟩

/-- **A property of every state, exactly.**  Where a step from a state with `P` leads to one
with `P` exactly if it meets `C`, every state of a run has `P` exactly if all its steps meet
`C`; `I` is what the steps keep besides. -/
theorem Run.forall_states_iff {C : σ → ι → Prop} {P I : σ → Prop} {s : σ} (hP : P s) (hI : I s)
    (hstep : ∀ s' a s'' out, I s' → P s' → M.step s' a = some (s'', out) →
      I s'' ∧ (P s'' ↔ C s' a))
    {tr : List (σ × ι)} {es : List ε} {s' : σ} (hrun : M.Run s tr es s') :
    (Meets (fun s _ => P s) tr ∧ P s') ↔ Meets C tr := by
  constructor
  · rintro ⟨hall, hlast⟩
    have hboth : Meets C tr ∧ I s' := by
      induction hrun with
      | refl => exact ⟨meets_nil _, hI⟩
      | snoc _ hs ih =>
          obtain ⟨htr, hbefore⟩ := meets_snoc.mp hall
          obtain ⟨hC, hinv⟩ := ih htr hbefore
          obtain ⟨hinv', hiff⟩ := hstep _ _ _ _ hinv hbefore hs
          exact ⟨meets_snoc.mpr ⟨hC, hiff.mp hlast⟩, hinv'⟩
    exact hboth.1
  · intro hmeets
    have hboth := hrun.meets_of_invariant (I := fun s => P s ∧ I s) ⟨hP, hI⟩
      (by
        rintro s₁ a s₂ out ⟨hP₁, hI₁⟩ hC hs
        obtain ⟨hI₂, hiff⟩ := hstep s₁ a s₂ out hI₁ hP₁ hs
        exact ⟨hiff.mpr hC, hI₂⟩) hmeets
    exact ⟨fun p hp => (hboth.1 p hp).1, hboth.2.1⟩

/-- One run after another is a run. -/
theorem Run.trans {s s' s'' : σ} {tr tr' : List (σ × ι)} {es es' : List ε}
    (h : M.Run s tr es s') (h' : M.Run s' tr' es' s'') :
    M.Run s (tr ++ tr') (es ++ es') s'' := by
  induction h' with
  | refl => simpa using h
  | snoc _ hs ih =>
      rw [← List.append_assoc, ← List.append_assoc]
      exact Run.snoc ih hs

/-- A single step is a run. -/
theorem Run.single {s s' : σ} {a : ι} {out : List ε} (h : M.step s a = some (s', out)) :
    M.Run s [(s, a)] out s' := by
  simpa using Run.snoc (Run.refl s) h

/-- **Every output has its step.**  An output of a run was emitted by a step from the
end of an earlier part of the run. -/
theorem Run.exists_step_of_output {s s' : σ} {tr : List (σ × ι)} {es l₁ l₂ : List ε} {e : ε}
    (h : M.Run s tr es s') (hes : es = l₁ ++ e :: l₂) :
    ∃ tr₁ tr₂ es' t a t' out₁ out₂, tr = tr₁ ++ (t, a) :: tr₂ ∧ M.Run s tr₁ es' t ∧
      M.step t a = some (t', out₁ ++ e :: out₂) ∧ l₁ = es' ++ out₁ := by
  induction h generalizing l₂ with
  | refl => simp at hes
  | @snoc t t' tr es out a hrun hs ih =>
      rcases List.append_eq_append_iff.mp hes with ⟨l, hl, hout⟩ | ⟨l, hl, hout⟩
      · -- emitted by the last step
        exact ⟨tr, [], es, t, a, t', l, l₂, rfl, hrun, by rw [hs, hout], hl⟩
      · rcases l with _ | ⟨e', l⟩
        · refine ⟨tr, [], es, t, a, t', [], l₂, rfl, hrun, ?_, ?_⟩
          · rw [hs, List.nil_append, ← List.nil_append out, ← hout]
          · rw [List.append_nil, hl, List.append_nil]
        · rw [List.cons_append, List.cons.injEq] at hout
          obtain ⟨rfl, hout⟩ := hout
          obtain ⟨tr₁, tr₂, es', u, a', u', out₁, out₂, htr, hrun', hs', hl'⟩ := ih hl
          refine ⟨tr₁, tr₂ ++ [(t, a)], es', u, a', u', out₁, out₂, ?_, hrun', hs', hl'⟩
          rw [htr, List.append_assoc, List.cons_append]

/-- **An output after another** was emitted by a step that comes after the other output, or
by the same step. -/
theorem Run.exists_step_of_later_output {s s' : σ} {tr : List (σ × ι)} {es l₁ l₂ : List ε}
    {e e' : ε} (h : M.Run s tr es s') (hes : es = l₁ ++ e :: l₂) (hmem : e' ∈ l₂) :
    ∃ tr₁ tr₂ es' t a t' out, tr = tr₁ ++ (t, a) :: tr₂ ∧ M.Run s tr₁ es' t ∧
      M.step t a = some (t', out) ∧ e' ∈ out ∧ (e ∈ es' ∨ e ∈ out) := by
  obtain ⟨m₁, m₂, rfl⟩ := List.append_of_mem hmem
  have hes' : es = (l₁ ++ e :: m₁) ++ e' :: m₂ := by
    rw [hes, List.append_assoc, List.cons_append]
  obtain ⟨tr₁, tr₂, es', t, a, t', out₁, out₂, htr, hrun, hs, hl⟩ := h.exists_step_of_output hes'
  refine ⟨tr₁, tr₂, es', t, a, t', _, htr, hrun, hs, by simp, ?_⟩
  have he : e ∈ es' ++ out₁ := by
    rw [← hl]
    simp
  exact (List.mem_append.mp he).imp_right fun hout => List.mem_append_left _ hout

/-- **A run can be split at a step.** -/
theorem Run.split {s s' t : σ} {a : ι} {tr tr₁ tr₂ : List (σ × ι)} {es : List ε}
    (h : M.Run s tr es s') (htr : tr = tr₁ ++ (t, a) :: tr₂) :
    ∃ es₁ t' out es₂, M.Run s tr₁ es₁ t ∧ M.step t a = some (t', out) ∧ M.Run t' tr₂ es₂ s' ∧
      es = es₁ ++ (out ++ es₂) := by
  induction h generalizing tr₂ with
  | refl => simp at htr
  | @snoc u u' tr es out b hrun hs ih =>
      rcases List.eq_nil_or_concat tr₂ with rfl | ⟨l, p, rfl⟩
      · -- the last step
        obtain ⟨rfl, hlast⟩ := List.append_inj' htr rfl
        obtain ⟨rfl, rfl⟩ := Prod.mk.inj (List.singleton_inj.mp hlast)
        exact ⟨es, u', out, [], hrun, hs, Run.refl u', by rw [List.append_nil]⟩
      · rw [List.concat_eq_append, ← List.cons_append, ← List.append_assoc] at htr
        obtain ⟨hl, hlast⟩ := List.append_inj' htr rfl
        obtain ⟨es₁, t', out', es₂, hrun₁, hs', hrun₂, hes⟩ := ih hl
        rw [List.concat_eq_append, ← List.singleton_inj.mp hlast]
        refine ⟨es₁, t', out', es₂ ++ out, hrun₁, hs', hrun₂.snoc hs, ?_⟩
        rw [hes, List.append_assoc, List.append_assoc]

/-! ## Machines with more state -/

/-- `M` has the states of `N`, seen through `view`, and more besides: a step of `M` is the one
of `N` that its input reads as, or does nothing that `N` could see. -/
structure Extends {τ κ : Type*} (M : Machine σ ι ε) (N : Machine τ κ ε) (view : σ → τ)
    (read : σ → ι → Option κ) : Prop where
  visible : ∀ s a b s' out, read s a = some b → M.step s a = some (s', out) →
    N.step (view s) b = some (view s', out)
  silent : ∀ s a s' out, read s a = none → M.step s a = some (s', out) →
    view s' = view s ∧ out = []

/-- The steps as `N` sees and takes them. -/
def viewTrace {τ κ : Type*} (view : σ → τ) (read : σ → ι → Option κ) (tr : List (σ × ι)) :
    List (τ × κ) :=
  tr.filterMap fun p => (read p.1 p.2).map (Prod.mk (view p.1))

section

variable {τ κ : Type*} {N : Machine τ κ ε} {view : σ → τ} {read : σ → ι → Option κ} {s s' : σ}
  {t : τ} {es : List ε}

theorem viewTrace_append (tr tr' : List (σ × ι)) :
    viewTrace view read (tr ++ tr') = viewTrace view read tr ++ viewTrace view read tr' :=
  List.filterMap_append

/-- A run of `M` is one of `N`. -/
theorem Extends.run_viewTrace (h : Extends M N view read) {tr : List (σ × ι)}
    (hrun : M.Run s tr es s') : N.Run (view s) (viewTrace view read tr) es (view s') := by
  induction hrun with
  | refl => exact .refl (view s)
  | @snoc t u tr es out a hrun hs ih =>
      rw [viewTrace_append]
      cases hread : read t a with
      | none =>
          obtain ⟨hview, rfl⟩ := h.silent _ _ _ _ hread hs
          have hnil : viewTrace view read [(t, a)] = [] := by simp [viewTrace, hread]
          rw [hnil, hview, List.append_nil, List.append_nil]
          exact ih
      | some b =>
          have hone : viewTrace view read [(t, a)] = [(view t, b)] := by simp [viewTrace, hread]
          rw [hone]
          exact ih.snoc (h.visible _ _ _ _ _ hread hs)

/-- **Every run can be had with more state.**  If from the states with `I` a step of `N` can
be taken by `M`, after steps that `N` does not see, so can every run of `N`. -/
theorem Run.exists_of_lifts {I : σ → Prop}
    (hlift : ∀ s b t out, I s → N.step (view s) b = some (t, out) →
      ∃ tr s', M.Run s tr out s' ∧ viewTrace view read tr = [(view s, b)] ∧ view s' = t ∧ I s')
    (hs : I s) {tr : List (τ × κ)} (hrun : N.Run (view s) tr es t) :
    ∃ tr' s', M.Run s tr' es s' ∧ viewTrace view read tr' = tr ∧ view s' = t := by
  suffices h : ∃ tr' s', M.Run s tr' es s' ∧ viewTrace view read tr' = tr ∧ view s' = t ∧ I s' by
    obtain ⟨tr', s', hrun', htr, hview, -⟩ := h
    exact ⟨tr', s', hrun', htr, hview⟩
  induction hrun with
  | refl => exact ⟨[], s, .refl s, rfl, rfl, hs⟩
  | @snoc u v tr es out b hrun hstep ih =>
      obtain ⟨tr', s', hrun', htr, rfl, hI⟩ := ih
      obtain ⟨tr'', s'', hrun'', htr', hview, hI'⟩ := hlift s' b v out hI hstep
      refine ⟨tr' ++ tr'', s'', hrun'.trans hrun'', ?_, hview, hI'⟩
      rw [viewTrace_append, htr, htr']

end

/-! ## Inputs that are read -/

/-- `M` does with an input what `N` does with the one it reads as, and nothing with one that
reads as none.  How an input reads may depend on the state. -/
structure Reads {κ : Type*} (M : Machine σ ι ε) (N : Machine σ κ ε) (read : σ → ι → Option κ) :
    Prop where
  visible : ∀ s a b, read s a = some b → M.step s a = N.step s b
  silent : ∀ s a s' out, read s a = none → M.step s a = some (s', out) → s' = s ∧ out = []

/-- The steps as `N` takes them. -/
def readTrace {κ : Type*} (read : σ → ι → Option κ) (tr : List (σ × ι)) : List (σ × κ) :=
  tr.filterMap fun p => (read p.1 p.2).map (Prod.mk p.1)

theorem readTrace_snoc {κ : Type*} (read : σ → ι → Option κ) (tr : List (σ × ι)) (s : σ) (a : ι) :
    readTrace read (tr ++ [(s, a)]) =
      readTrace read tr ++ ((read s a).map (Prod.mk s)).toList := by
  rw [readTrace, List.filterMap_append, ← readTrace]
  cases h : read s a with
  | none => simp [h]
  | some b => simp [h]

section

variable {κ : Type*} {N : Machine σ κ ε} {read : σ → ι → Option κ} {s s' : σ} {es : List ε}

theorem Reads.extends (h : Reads M N read) : Extends M N id read where
  visible s a b _ _ hread hs := (h.visible s a b hread).symm.trans hs
  silent s a s' out hread hs := h.silent s a s' out hread hs

theorem Reads.run_readTrace (h : Reads M N read) {tr : List (σ × ι)} (hrun : M.Run s tr es s') :
    N.Run s (readTrace read tr) es s' :=
  h.extends.run_viewTrace hrun

/-- What the inputs that can be read have in common holds of the steps as they are read. -/
theorem Reads.meets_readTrace (h : Reads M N read) {C : σ → κ → Prop}
    (hread : ∀ s a b s' out, read s a = some b → N.step s b = some (s', out) → C s b)
    {tr : List (σ × ι)} (hrun : M.Run s tr es s') : Meets C (readTrace read tr) := by
  induction hrun with
  | refl => exact meets_nil C
  | @snoc t u tr es out a hrun hs ih =>
      rw [readTrace_snoc]
      cases hb : read t a with
      | none => rwa [Option.map_none, Option.toList_none, List.append_nil]
      | some b =>
          rw [h.visible _ _ _ hb] at hs
          exact meets_snoc.mpr ⟨ih, hread _ _ _ _ _ hb hs⟩

/-- **What can be read is what runs.**  If `C` holds of exactly the steps of `N` whose input
can be read, the runs of `N` that meet `C` are those of `M` as it reads them. -/
theorem Reads.run_iff (h : Reads M N read) {C : σ → κ → Prop}
    (hread : ∀ s b s' out, N.step s b = some (s', out) → (C s b ↔ ∃ a, read s a = some b))
    {tr : List (σ × κ)} :
    N.Run s tr es s' ∧ Meets C tr ↔ ∃ tr', M.Run s tr' es s' ∧ readTrace read tr' = tr := by
  constructor
  · rintro ⟨hrun, hmeets⟩
    induction hrun with
    | refl => exact ⟨[], .refl s, rfl⟩
    | @snoc t u tr es out b hrun hs ih =>
        obtain ⟨hbefore, hlast⟩ := meets_snoc.mp hmeets
        obtain ⟨tr', hrun', htr⟩ := ih hbefore
        obtain ⟨a, ha⟩ := (hread _ _ _ _ hs).mp hlast
        rw [← h.visible _ _ _ ha] at hs
        refine ⟨tr' ++ [(t, a)], hrun'.snoc hs, ?_⟩
        rw [readTrace_snoc, htr, ha]
        rfl
  · rintro ⟨tr', hrun, rfl⟩
    exact ⟨h.run_readTrace hrun,
      h.meets_readTrace (fun _ a _ _ _ hb hs => (hread _ _ _ _ hs).mpr ⟨a, hb⟩) hrun⟩

end

/-! ## Variants -/

/-- **Steps counted by a variant.**  Where no step with `C` makes the variant grow and those
of a kind make it smaller, a run of such steps takes at most as many of the kind as the
variant has gone down; `I` is what the steps keep besides. -/
theorem Run.countP_add_le {C : σ → ι → Prop} {I : σ → Prop} {v : σ → ℕ} {P : ι → Bool} {s : σ}
    (hinit : I s)
    (hstep : ∀ s' a s'' out, I s' → C s' a → M.step s' a = some (s'', out) →
      I s'' ∧ v s'' + (if P a then 1 else 0) ≤ v s')
    {tr : List (σ × ι)} {es : List ε} {s' : σ} (hrun : M.Run s tr es s') (hmeets : Meets C tr) :
    I s' ∧ tr.countP (fun p => P p.2) + v s' ≤ v s := by
  induction hrun with
  | refl => exact ⟨hinit, by simp⟩
  | @snoc t u tr es out a hrun hs ih =>
      obtain ⟨hbefore, hlast⟩ := meets_snoc.mp hmeets
      obtain ⟨hI, hle⟩ := ih hbefore
      obtain ⟨hI', hle'⟩ := hstep _ _ _ _ hI hlast hs
      refine ⟨hI', ?_⟩
      have hone : [(t, a)].countP (fun p => P p.2) = if P a then 1 else 0 :=
        List.countP_singleton
      rw [List.countP_append, hone]
      omega

/-- **Going on to a goal.**  If away from the goal there is always a step that makes the
variant smaller, the goal is reached by such steps. -/
theorem exists_run_of_variant {I goal : σ → Prop} {C : σ → ι → Prop} {v : σ → ℕ}
    (hstep : ∀ s, I s → ¬ goal s → ∃ a s' out, C s a ∧ M.step s a = some (s', out) ∧ I s' ∧
      v s' < v s)
    {s : σ} (hs : I s) :
    ∃ tr es s', M.Run s tr es s' ∧ Meets C tr ∧ goal s' ∧ tr.length ≤ v s := by
  induction hn : v s using Nat.strongRecOn generalizing s with
  | ind n ih =>
      subst hn
      by_cases hgoal : goal s
      · exact ⟨[], [], s, .refl s, meets_nil C, hgoal, Nat.zero_le _⟩
      · obtain ⟨a, t, out, hC, ha, ht, hlt⟩ := hstep s hs hgoal
        obtain ⟨tr, es, s', hrun, hmeets, hgoal', hlen⟩ := ih (v t) hlt ht rfl
        refine ⟨[(s, a)] ++ tr, out ++ es, s', (Run.single ha).trans hrun, ?_, hgoal', ?_⟩
        · rintro p hp
          rcases List.mem_append.mp hp with hp | hp
          · rw [List.mem_singleton.mp hp]
            exact hC
          · exact hmeets p hp
        · rw [List.length_append, List.length_singleton]
          omega

/-- **Going on to a goal, with an account of the outputs.** -/
theorem Run.exists_of_variant {I : List ε → σ → Prop} {goal : σ → Prop} {v : List ε → σ → ℕ}
    (hstep : ∀ es s, I es s → ¬ goal s → ∃ a s' out, M.step s a = some (s', out) ∧
      I (es ++ out) s' ∧ v (es ++ out) s' < v es s)
    {s₀ s : σ} {tr : List (σ × ι)} {es : List ε} (h : M.Run s₀ tr es s) (hI : I es s) :
    ∃ tr' es' s', M.Run s₀ tr' es' s' ∧ I es' s' ∧ goal s' := by
  induction hn : v es s using Nat.strongRecOn generalizing tr es s with
  | ind n ih =>
      subst hn
      by_cases hgoal : goal s
      · exact ⟨tr, es, s, h, hI, hgoal⟩
      · obtain ⟨a, t, out, ha, ht, hlt⟩ := hstep es s hI hgoal
        exact ih _ hlt (h.snoc ha) ht rfl

/-! ## Execution -/

variable (M)

/-- Feed a list of inputs to the machine; `none` if some input is not enabled. -/
def exec : σ → List ι → Option (σ × List ε)
  | s, [] => some (s, [])
  | s, a :: rest =>
      match M.step s a with
      | none => none
      | some (s', out) =>
          match exec s' rest with
          | none => none
          | some (s'', es) => some (s'', out ++ es)

/-- The steps of an execution, as far as it gets. -/
def trace : σ → List ι → List (σ × ι)
  | _, [] => []
  | s, a :: rest =>
      match M.step s a with
      | none => []
      | some (s', _) => (s, a) :: trace s' rest

variable {M}

/-- An execution of `a` and more is a step and an execution. -/
theorem exists_of_exec_cons {a : ι} {rest : List ι} {s s' : σ} {es : List ε}
    (h : M.exec s (a :: rest) = some (s', es)) :
    ∃ t out es', M.step s a = some (t, out) ∧ M.exec t rest = some (s', es') ∧
      es = out ++ es' := by
  rw [exec] at h
  rcases hs : M.step s a with _ | ⟨t, out⟩
  · rw [hs] at h
    simp at h
  · rw [hs] at h
    simp only at h
    rcases he : M.exec t rest with _ | ⟨u, es'⟩
    · rw [he] at h
      simp at h
    · rw [he] at h
      simp only [Option.some.injEq, Prod.mk.injEq] at h
      obtain ⟨rfl, rfl⟩ := h
      exact ⟨t, out, es', rfl, he, rfl⟩

/-- **Executions are runs**, with the trace of the execution as its steps. -/
theorem Run.of_exec {as : List ι} {s s' : σ} {es : List ε} (h : M.exec s as = some (s', es)) :
    M.Run s (M.trace s as) es s' := by
  induction as generalizing s es with
  | nil =>
      simp only [exec, Option.some.injEq, Prod.mk.injEq] at h
      obtain ⟨rfl, rfl⟩ := h
      exact Run.refl s
  | cons a rest ih =>
      obtain ⟨t, out, es', hs, he, rfl⟩ := exists_of_exec_cons h
      have htrace : M.trace s (a :: rest) = [(s, a)] ++ M.trace t rest := by
        rw [trace, hs]
        rfl
      rw [htrace]
      exact (Run.single hs).trans (ih he)

/-- The inputs of the trace are those executed. -/
theorem map_snd_trace {as : List ι} {s s' : σ} {es : List ε} (h : M.exec s as = some (s', es)) :
    (M.trace s as).map Prod.snd = as := by
  induction as generalizing s es with
  | nil => rfl
  | cons a rest ih =>
      obtain ⟨t, out, es', hs, he, rfl⟩ := exists_of_exec_cons h
      rw [trace, hs]
      exact congrArg (a :: ·) (ih he)

/-- One more step of an execution. -/
theorem exec_snoc {as : List ι} {a : ι} {s s' s'' : σ} {es out : List ε}
    (h : M.exec s as = some (s', es)) (hs : M.step s' a = some (s'', out)) :
    M.exec s (as ++ [a]) = some (s'', es ++ out) := by
  induction as generalizing s es with
  | nil =>
      simp only [exec, Option.some.injEq, Prod.mk.injEq] at h
      obtain ⟨rfl, rfl⟩ := h
      rw [List.nil_append, exec, hs]
      simp only [exec, List.append_nil, List.nil_append]
  | cons b rest ih =>
      obtain ⟨t, out', es', hb, he, rfl⟩ := exists_of_exec_cons h
      rw [List.cons_append, exec, hb]
      simp only [ih he, List.append_assoc]

/-- **Runs are executions** of their inputs. -/
theorem Run.exec_eq {s s' : σ} {tr : List (σ × ι)} {es : List ε} (h : M.Run s tr es s') :
    M.exec s (tr.map Prod.snd) = some (s', es) := by
  induction h with
  | refl => rfl
  | snoc _ hs ih =>
      rw [List.map_append]
      exact exec_snoc ih hs

/-- The inputs of a run determine what it shows and where it ends. -/
theorem Run.eq_of_inputs {s s' s'' : σ} {tr tr' : List (σ × ι)} {es es' : List ε}
    (h : M.Run s tr es s') (h' : M.Run s tr' es' s'')
    (hinputs : tr.map Prod.snd = tr'.map Prod.snd) : es = es' ∧ s' = s'' := by
  have heq := h.exec_eq
  rw [hinputs, h'.exec_eq, Option.some.injEq, Prod.mk.injEq] at heq
  exact ⟨heq.2.symm, heq.1.symm⟩

/-- There is a run for every execution. -/
theorem Run.exists_of_exec {as : List ι} {s s' : σ} {es : List ε}
    (h : M.exec s as = some (s', es)) :
    ∃ tr, M.Run s tr es s' ∧ tr.map Prod.snd = as :=
  ⟨M.trace s as, .of_exec h, map_snd_trace h⟩

end Machine
