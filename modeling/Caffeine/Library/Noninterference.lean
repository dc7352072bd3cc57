/-
# Noninterference by unwinding

Some inputs of a machine are hidden from an observer, who sees a part of each output.  If
every hidden input keeps a relation between the state and that of a machine which does
without them, and shows nothing, and every other input does the same on both sides, then
the run without the hidden inputs exists and shows the observer the same.

* `Machine.purge` : the inputs that are left;
* `Machine.Unwinding` : the two conditions on a step, for the steps that meet a condition;
* `Machine.Unwinding.run` : the run without the hidden inputs;
* `Machine.Unwinding.view_eq` : two runs that differ in hidden inputs show the same.
-/
import Caffeine.Library.Machine

namespace Machine

variable {σ ι ε ω : Type*}

/-- The inputs that are not hidden. -/
def purge (hidden : ι → Bool) (as : List ι) : List ι := as.filter fun a => !hidden a

section

variable {hidden : ι → Bool} {as : List ι} {a : ι}

theorem purge_snoc_of_hidden (h : hidden a = true) :
    purge hidden (as ++ [a]) = purge hidden as := by
  unfold purge
  rw [List.filter_append, List.filter_cons_of_neg (by simp [h]), List.filter_nil,
    List.append_nil]

theorem purge_snoc_of_visible (h : hidden a = false) :
    purge hidden (as ++ [a]) = purge hidden as ++ [a] := by
  unfold purge
  rw [List.filter_append, List.filter_cons_of_pos (by simp [h]), List.filter_nil]

end

/-- **The conditions on a step**, for the inputs `hidden`, the steps that meet `C`, what the
observer sees of an output, and a relation between states. -/
structure Unwinding (M : Machine σ ι ε) (hidden : ι → Bool) (C : σ → ι → Prop)
    (view : ε → Option ω) (R : σ → σ → Prop) : Prop where
  hidden_step : ∀ s a s' out t, R s t → C s a → hidden a = true →
    M.step s a = some (s', out) → R s' t ∧ out.filterMap view = []
  visible_step : ∀ s a s' out t, R s t → C s a → hidden a = false →
    M.step s a = some (s', out) →
    ∃ t' out', M.step t a = some (t', out') ∧ R s' t' ∧
      out.filterMap view = out'.filterMap view

variable {M : Machine σ ι ε} {hidden : ι → Bool} {C : σ → ι → Prop} {view : ε → Option ω}
  {R : σ → σ → Prop}

/-- **The run without the hidden inputs.** -/
theorem Unwinding.run (h : Unwinding M hidden C view R) {s s' t : σ} {tr : List (σ × ι)}
    {es : List ε} (hrun : M.Run s tr es s') (hmeets : Meets C tr) (hR : R s t) :
    ∃ t' tr' es', M.Run t tr' es' t' ∧ tr'.map Prod.snd = purge hidden (tr.map Prod.snd) ∧
      R s' t' ∧ es.filterMap view = es'.filterMap view := by
  induction hrun with
  | refl => exact ⟨t, [], [], .refl t, rfl, hR, rfl⟩
  | @snoc u u' tr es out a hrun hs ih =>
      obtain ⟨htr, hlast⟩ := meets_snoc.mp hmeets
      obtain ⟨t', tr', es', hrun', hinputs, hR', hview⟩ := ih htr
      rw [List.map_append]
      rcases ha : hidden a with _ | _
      · obtain ⟨t'', out', hs', hR'', hout⟩ := h.visible_step u a u' out t' hR' hlast ha hs
        refine ⟨t'', tr' ++ [(t', a)], es' ++ out', hrun'.snoc hs', ?_, hR'', ?_⟩
        · rw [List.map_append, hinputs]
          exact (purge_snoc_of_visible ha).symm
        · rw [List.filterMap_append, List.filterMap_append, hview, hout]
      · obtain ⟨hR'', hout⟩ := h.hidden_step u a u' out t' hR' hlast ha hs
        refine ⟨t', tr', es', hrun', ?_, hR'', ?_⟩
        · rw [hinputs]
          exact (purge_snoc_of_hidden ha).symm
        · rw [List.filterMap_append, hout, List.append_nil, hview]

/-- **Two runs that differ in hidden inputs** show the observer the same. -/
theorem Unwinding.view_eq (h : Unwinding M hidden C view R) {s s' s'' : σ}
    {tr tr' : List (σ × ι)} {es es' : List ε} (hrun : M.Run s tr es s')
    (hrun' : M.Run s tr' es' s'') (hmeets : Meets C tr) (hmeets' : Meets C tr') (hR : R s s)
    (hsame : purge hidden (tr.map Prod.snd) = purge hidden (tr'.map Prod.snd)) :
    es.filterMap view = es'.filterMap view := by
  obtain ⟨t, trace, events, hpurged, hinputs, -, hview⟩ := h.run hrun hmeets hR
  obtain ⟨t', trace', events', hpurged', hinputs', -, hview'⟩ := h.run hrun' hmeets' hR
  have heq := (hpurged.eq_of_inputs hpurged' (by rw [hinputs, hinputs', hsame])).1
  rw [hview, hview', heq]

end Machine
