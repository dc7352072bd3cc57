/-
# The failure tasks

A failure task looks for its broadcast in one critical section and ends whatever
broadcast there is in another.  If the application ends the broadcast in between, the
task stops a later broadcast or none, and calls `failedCallback` all the same.  Where
the application does not, every task stops exactly its own broadcast and then calls
its callback, or does nothing.
-/
import Caffeine.Dispatch

namespace Caff

/-! ## The property and its condition -/

/-- The event is an effect of the task. -/
def DispatchEvent.isEffectOf (τ : Task) : DispatchEvent → Bool
  | .ended _ ender => ender = .task τ
  | .failedCallback τ' => τ' = τ
  | _ => false

def effects (τ : Task) (es : List DispatchEvent) : List DispatchEvent :=
  es.filter (DispatchEvent.isEffectOf τ)

/-- The task has had no effect, or has stopped its broadcast and is about to call the
callback, or has done both. -/
def TaskLawful (τ : Task) (es : List DispatchEvent) (s : Dispatch) : Prop :=
  effects τ es = [] ∨
    effects τ es = [.ended τ.broadcast (.task τ)] ∧ s.task = .calling τ ∨
    effects τ es = [.ended τ.broadcast (.task τ), .failedCallback τ]

/-- The condition on a step: the application's `endBroadcast` does not take the lock
while a task has found its broadcast and has not yet called `endBroadcast`. -/
def TaskUndisturbed (s : Dispatch) (a : DispatchAction) : Prop :=
  a = .endBroadcast → ∀ τ, s.task ≠ .found τ

/-! ## The numbers of the tasks -/

/-- Tasks are numbered in the order of the queue, and the one being worked on comes
before those queued. -/
structure TaskNumbers (s : Dispatch) : Prop where
  queued : ∀ τ ∈ s.taskQueue, τ.number < s.posted
  sorted : s.taskQueue.Pairwise fun τ τ' => τ.number < τ'.number
  current : ∀ τ, s.task.current = some τ → τ.number < s.posted
  current_queued : ∀ τ, s.task.current = some τ → ∀ τ' ∈ s.taskQueue, τ.number < τ'.number

section

variable {s s' : Dispatch} {a : DispatchAction} {out es : List DispatchEvent}

theorem number_of_mem_newTasks {b : ℕ} {out : List Event} {τ : Task} (h : τ ∈ s.newTasks b out) :
    s.posted ≤ τ.number ∧ τ.number < s.posted + (s.newTasks b out).length := by
  have hlength : (s.newTasks b out).length = (out.filterMap Event.failure).length :=
    List.length_mapIdx
  rw [hlength]
  rw [Dispatch.newTasks, List.mem_mapIdx] at h
  obtain ⟨i, hi, rfl⟩ := h
  exact ⟨Nat.le_add_right .., Nat.add_lt_add_left hi _⟩

theorem sorted_newTasks (b : ℕ) (out : List Event) :
    (s.newTasks b out).Pairwise fun τ τ' => τ.number < τ'.number := by
  rw [List.pairwise_iff_getElem]
  intro i j hi hj hij
  simp only [Dispatch.newTasks, List.getElem_mapIdx]
  omega

/-- A step that posts nothing and takes at most the first task from the queue. -/
theorem TaskNumbers.of_suffix (h : TaskNumbers s) (hposted : s'.posted = s.posted)
    (hqueue : s'.taskQueue <:+ s.taskQueue)
    (hcurrent : ∀ τ, s'.task.current = some τ → s.task.current = some τ ∨
      s.taskQueue = τ :: s'.taskQueue) : TaskNumbers s' := by
  refine ⟨fun τ hτ => ?_, h.sorted.sublist hqueue.sublist, fun τ hτ => ?_, fun τ hτ τ' hτ' => ?_⟩
  · rw [hposted]
    exact h.queued τ (hqueue.mem hτ)
  · rw [hposted]
    rcases hcurrent τ hτ with hτ | hq
    · exact h.current τ hτ
    · exact h.queued τ (by rw [hq]; exact List.mem_cons_self)
  · rcases hcurrent τ hτ with hτ | hq
    · exact h.current_queued τ hτ τ' (hqueue.mem hτ')
    · have hsorted := h.sorted
      rw [hq, List.pairwise_cons] at hsorted
      exact hsorted.1 τ' hτ'

theorem TaskNumbers.moves (h : TaskNumbers s) (hinv : DispatchInv s)
    (hmoves : DispatchMoves s a s' out) : TaskNumbers s' := by
  cases hmoves with
  | advance b a w w' out hb ha hs =>
      refine ⟨fun τ hτ => ?_, ?_, fun τ hτ => ?_, fun τ hτ τ' hτ' => ?_⟩
      · show τ.number < s.posted + (s.newTasks b out).length
        rcases List.mem_append.mp hτ with hτ | hτ
        · exact Nat.lt_of_lt_of_le (h.queued τ hτ) (Nat.le_add_right ..)
        · exact (number_of_mem_newTasks hτ).2
      · refine List.pairwise_append.mpr ⟨h.sorted, sorted_newTasks b out, fun τ hτ τ' hτ' => ?_⟩
        exact Nat.lt_of_lt_of_le (h.queued τ hτ) (number_of_mem_newTasks hτ').1
      · exact Nat.lt_of_lt_of_le (h.current τ hτ) (Nat.le_add_right ..)
      · rcases List.mem_append.mp hτ' with hτ' | hτ'
        · exact h.current_queued τ hτ τ' hτ'
        · exact Nat.lt_of_lt_of_le (h.current τ hτ) (number_of_mem_newTasks hτ').1
  | finishTask b τ w hm hb hw =>
      refine h.of_suffix rfl List.suffix_rfl fun τ' hτ => .inl ?_
      rw [hinv.held b τ hm]
      exact hτ
  | find τ rest ht hq hm hb =>
      refine h.of_suffix rfl (by rw [hq]; exact List.suffix_cons τ rest) fun τ' hτ => .inr ?_
      rw [hq, Option.some.inj hτ]
  | skip τ rest ht hq =>
      exact h.of_suffix rfl (by rw [hq]; exact List.suffix_cons τ rest) fun _ hτ => .inl hτ
  | endTask τ b ht hm hb =>
      refine h.of_suffix rfl List.suffix_rfl fun τ' hτ => .inl ?_
      rw [ht]
      exact hτ
  | endNothing τ ht hm hb =>
      refine h.of_suffix rfl List.suffix_rfl fun τ' hτ => .inl ?_
      rw [ht]
      exact hτ
  | callTask τ ht => exact h.of_suffix rfl List.suffix_rfl fun _ hτ => (nomatch hτ)
  | _ => exact h.of_suffix rfl List.suffix_rfl fun _ hτ => .inl hτ

/-! ## The effects of the tasks -/

theorem effects_append (τ : Task) (es es' : List DispatchEvent) :
    effects τ (es ++ es') = effects τ es ++ effects τ es' :=
  List.filter_append es es'

theorem effects_concat_self {τ : Task} {e : DispatchEvent} (he : e.isEffectOf τ = true) :
    effects τ (es ++ [e]) = effects τ es ++ [e] := by
  rw [effects_append, effects, effects, List.filter_singleton, he]
  rfl

theorem effects_concat_other {τ : Task} {e : DispatchEvent} (he : e.isEffectOf τ = false) :
    effects τ (es ++ [e]) = effects τ es := by
  rw [effects_append, effects, effects, List.filter_singleton, he]
  exact List.append_nil _

/-- What the tasks have done, where the application does not come between. -/
structure TaskEffects (es : List DispatchEvent) (s : Dispatch) : Prop where
  /-- Another task than the current one has had all of its effects, or none. -/
  done : ∀ τ, s.task.current ≠ some τ →
    effects τ es = [] ∨ effects τ es = [.ended τ.broadcast (.task τ), .failedCallback τ]
  found : ∀ τ, s.task = .found τ → effects τ es = [] ∧ s.broadcast = some τ.broadcast ∧
    s.broadcastMutex = none
  ending : ∀ τ, s.task = .ending τ →
    effects τ es = [] ∧ s.broadcastMutex = some (.ending τ.broadcast (.task τ))
  calling : ∀ τ, s.task = .calling τ → effects τ es = [.ended τ.broadcast (.task τ)]
  /-- A task that is queued has had none. -/
  queued : ∀ τ, effects τ es ≠ [] → τ.number < s.posted ∧ ∀ τ' ∈ s.taskQueue, τ.number < τ'.number
  /-- No task is about a broadcast the application has ended. -/
  application : ∀ b, .ended b .application ∈ es → (s.broadcasts b).isSome = true ∧
    s.broadcast ≠ some b ∧ ∀ τ, s.task.current = some τ → τ.broadcast ≠ b

theorem taskEffects_init : TaskEffects [] {} where
  done _ _ := .inl rfl
  found _ h := by cases h
  ending _ h := by cases h
  calling _ h := by cases h
  queued _ h := absurd rfl h
  application _ h := by cases h

/-- A step that shows no effect of a task and takes no task on. -/
theorem TaskEffects.of_quiet (h : TaskEffects es s)
    (hmoves : DispatchMoves s a s' out)
    (hout : ∀ e ∈ out, ∃ b e', e = .broadcast b e') (htask : s'.task = s.task)
    (hqueue : ∀ τ ∈ s'.taskQueue, τ ∈ s.taskQueue ∨ s.posted ≤ τ.number)
    (hposted : s.posted ≤ s'.posted)
    (hfound : ∀ τ, s.task = .found τ → s.broadcast = some τ.broadcast → s.broadcastMutex = none →
      s'.broadcast = some τ.broadcast ∧ s'.broadcastMutex = none)
    (hending : ∀ b τ, s.broadcastMutex = some (.ending b (.task τ)) →
      s'.broadcastMutex = some (.ending b (.task τ)))
    (hslot : ∀ b, (s.broadcasts b).isSome = true → s.broadcast ≠ some b → s'.broadcast ≠ some b) :
    TaskEffects (es ++ out) s' := by
  have heffects : ∀ τ, effects τ (es ++ out) = effects τ es := by
    intro τ
    have hnil : effects τ out = [] := by
      apply List.filter_eq_nil_iff.mpr
      intro e he
      obtain ⟨b, e', rfl⟩ := hout e he
      simp [DispatchEvent.isEffectOf]
    rw [effects_append, hnil, List.append_nil]
  refine ⟨fun τ hτ => ?_, fun τ hτ => ?_, fun τ hτ => ?_, fun τ hτ => ?_, fun τ hτ => ?_,
    fun b hb => ?_⟩
  · rw [heffects]
    exact h.done τ (htask ▸ hτ)
  · rw [htask] at hτ
    obtain ⟨hnone, hslot, hm⟩ := h.found τ hτ
    rw [heffects]
    exact ⟨hnone, hfound τ hτ hslot hm⟩
  · rw [htask] at hτ
    obtain ⟨hnone, hm⟩ := h.ending τ hτ
    rw [heffects]
    exact ⟨hnone, hending τ.broadcast τ hm⟩
  · rw [heffects]
    exact h.calling τ (htask ▸ hτ)
  · rw [heffects] at hτ
    obtain ⟨hlt, hall⟩ := h.queued τ hτ
    refine ⟨Nat.lt_of_lt_of_le hlt hposted, fun τ' hτ' => ?_⟩
    rcases hqueue τ' hτ' with hτ' | hτ'
    · exact hall τ' hτ'
    · exact Nat.lt_of_lt_of_le hlt hτ'
  · have hb : .ended b .application ∈ es := by
      apply (List.mem_append.mp hb).resolve_right
      intro hb
      obtain ⟨i, e', he⟩ := hout _ hb
      cases he
    obtain ⟨hsome, hleft, hcurrent⟩ := h.application b hb
    refine ⟨hmoves.isSome_broadcasts hsome, hslot b hsome hleft, ?_⟩
    rw [htask]
    exact hcurrent

/-- The application has ended a broadcast: it did not belong to the current task. -/
theorem TaskEffects.finishEnd (h : TaskEffects es s) (hinv : DispatchInv s) {b : ℕ}
    (hm : s.broadcastMutex = some (.ending b .application)) :
    TaskEffects (es ++ [.ended b .application])
      { s with broadcast := none, broadcastMutex := none } := by
  have hslot : s.broadcast = some b := hinv.ending b .application hm
  have heffects : ∀ τ, effects τ (es ++ [.ended b .application]) = effects τ es :=
    fun τ => effects_concat_other rfl
  have hfound : ∀ τ, s.task ≠ .found τ := by
    intro τ hτ
    rw [(h.found τ hτ).2.2] at hm
    cases hm
  have hending : ∀ τ, s.task ≠ .ending τ := hinv.task_ne_ending (by simp [hm])
  have hcalling : ∀ τ, s.task.current = some τ → τ.broadcast ≠ b := by
    intro τ hτ hτb
    rcases ht : s.task with _ | τ' | τ' | τ'
    · rw [ht] at hτ
      cases hτ
    · exact hfound τ' ht
    · exact hending τ' ht
    · rw [ht] at hτ
      apply (hinv.calling τ' ht).2
      rw [hslot, ← hτb, Option.some.inj hτ]
  refine ⟨fun τ hτ => ?_, fun τ hτ => absurd hτ (hfound τ), fun τ hτ => absurd hτ (hending τ),
    fun τ hτ => ?_, fun τ hτ => ?_, fun i hi => ?_⟩
  · rw [heffects]
    exact h.done τ hτ
  · rw [heffects]
    exact h.calling τ hτ
  · rw [heffects] at hτ
    exact h.queued τ hτ
  · rcases List.mem_append.mp hi with hi | hi
    · obtain ⟨hsome, -, hcurrent⟩ := h.application i hi
      exact ⟨hsome, by simp, hcurrent⟩
    · have hib : i = b := by simpa using hi
      rw [hib]
      exact ⟨hinv.slot b hslot, by simp, hcalling⟩

/-- A task has ended the broadcast in the slot, which is its own. -/
theorem TaskEffects.finishTask (h : TaskEffects es s) (hinv : DispatchInv s)
    (hnumbers : TaskNumbers s) {b : ℕ} {τ : Task}
    (hm : s.broadcastMutex = some (.ending b (.task τ))) :
    TaskEffects (es ++ [.ended b (.task τ)])
      { s with broadcast := none, broadcastMutex := none, task := .calling τ } := by
  have ht : s.task = .ending τ := hinv.held b τ hm
  have hcurrent : s.task.current = some τ := by rw [ht]; rfl
  obtain ⟨hnone, hm'⟩ := h.ending τ ht
  have hbτ : b = τ.broadcast := by
    rw [hm] at hm'
    exact (Holder.ending.inj (Option.some.inj hm')).1
  have hself : effects τ (es ++ [.ended b (.task τ)]) = [.ended τ.broadcast (.task τ)] := by
    rw [effects_concat_self (by simp [DispatchEvent.isEffectOf]), hnone, hbτ]
    rfl
  have hother : ∀ τ', τ' ≠ τ → effects τ' (es ++ [.ended b (.task τ)]) = effects τ' es :=
    fun τ' hne => effects_concat_other (by simp [DispatchEvent.isEffectOf, Ne.symm hne])
  refine ⟨fun τ' hτ => ?_, fun _ hτ => (nomatch hτ), fun _ hτ => (nomatch hτ), fun τ' hτ => ?_,
    fun τ' hτ => ?_, fun i hi => ?_⟩
  · have hne : τ' ≠ τ := by
      rintro rfl
      exact hτ rfl
    rw [hother τ' hne]
    exact h.done τ' fun hτ' => hne (Option.some.inj (hτ'.symm.trans hcurrent))
  · rw [← TaskState.calling.inj hτ, hself]
  · by_cases hne : τ' = τ
    · rw [hne]
      exact ⟨hnumbers.current τ hcurrent, hnumbers.current_queued τ hcurrent⟩
    · rw [hother τ' hne] at hτ
      exact h.queued τ' hτ
  · have hi : .ended i .application ∈ es := by simpa using hi
    obtain ⟨hsome, -, hnot⟩ := h.application i hi
    refine ⟨hsome, by simp, fun τ' hτ => ?_⟩
    rw [← Option.some.inj hτ]
    exact hnot τ hcurrent

/-- The next task finds its broadcast: it has had no effect yet, and the application has
not ended the broadcast. -/
theorem TaskEffects.find (h : TaskEffects es s) {τ : Task} {rest : List Task}
    (ht : s.task = .idle) (hq : s.taskQueue = τ :: rest) (hm : s.broadcastMutex = none)
    (hb : s.broadcast = some τ.broadcast) :
    TaskEffects es { s with taskQueue := rest, task := .found τ } := by
  have hidle : s.task.current = none := by rw [ht]; rfl
  refine ⟨fun τ' hτ => h.done τ' (by rw [hidle]; simp), fun τ' hτ => ?_,
    fun _ hτ => (nomatch hτ), fun _ hτ => (nomatch hτ), fun τ' hτ => ?_, fun i hi => ?_⟩
  · rw [← TaskState.found.inj hτ]
    refine ⟨?_, hb, hm⟩
    -- a task with an effect comes before all that are queued
    by_contra hne
    exact absurd ((h.queued τ hne).2 τ (by rw [hq]; exact List.mem_cons_self)) (lt_irrefl _)
  · obtain ⟨hlt, hall⟩ := h.queued τ' hτ
    exact ⟨hlt, fun τ'' hτ'' => hall τ'' (by rw [hq]; exact List.mem_cons_of_mem τ hτ'')⟩
  · obtain ⟨hsome, hleft, -⟩ := h.application i hi
    refine ⟨hsome, hleft, fun τ' hτ hτi => hleft ?_⟩
    rw [hb, ← hτi, Option.some.inj hτ]

/-- The task that has found its broadcast goes on to end it. -/
theorem TaskEffects.endTask (h : TaskEffects es s) {τ : Task} {b : ℕ} (ht : s.task = .found τ)
    (hb : s.broadcast = some b) :
    TaskEffects es { s with broadcastMutex := some (.ending b (.task τ)), task := .ending τ } := by
  obtain ⟨hnone, hslot, -⟩ := h.found τ ht
  have hbτ : b = τ.broadcast := Option.some.inj (hb.symm.trans hslot)
  have hcurrent : s.task.current = some τ := by rw [ht]; rfl
  refine ⟨fun τ' hτ => h.done τ' (by rw [hcurrent]; exact hτ), fun _ hτ => (nomatch hτ),
    fun τ' hτ => ?_, fun _ hτ => (nomatch hτ), h.queued, fun i hi => ?_⟩
  · rw [← TaskState.ending.inj hτ, hbτ]
    exact ⟨hnone, rfl⟩
  · obtain ⟨hsome, hleft, hnot⟩ := h.application i hi
    exact ⟨hsome, hleft, fun τ' hτ => hnot τ' (by rw [hcurrent]; exact hτ)⟩

/-- The task calls the callback of the broadcast it has stopped. -/
theorem TaskEffects.callTask (h : TaskEffects es s) (hnumbers : TaskNumbers s) {τ : Task}
    (ht : s.task = .calling τ) :
    TaskEffects (es ++ [.failedCallback τ]) { s with task := .idle } := by
  have hcurrent : s.task.current = some τ := by rw [ht]; rfl
  have hself : effects τ (es ++ [.failedCallback τ]) =
      [.ended τ.broadcast (.task τ), .failedCallback τ] := by
    rw [effects_concat_self (by simp [DispatchEvent.isEffectOf]), h.calling τ ht]
    rfl
  have hother : ∀ τ', τ' ≠ τ → effects τ' (es ++ [.failedCallback τ]) = effects τ' es :=
    fun τ' hne => effects_concat_other (by simp [DispatchEvent.isEffectOf, Ne.symm hne])
  refine ⟨fun τ' _ => ?_, fun _ hτ => (nomatch hτ), fun _ hτ => (nomatch hτ),
    fun _ hτ => (nomatch hτ), fun τ' hτ => ?_, fun i hi => ?_⟩
  · by_cases hne : τ' = τ
    · rw [hne]
      exact .inr hself
    · rw [hother τ' hne]
      exact h.done τ' fun hτ' => hne (Option.some.inj (hτ'.symm.trans hcurrent))
  · by_cases hne : τ' = τ
    · rw [hne]
      exact ⟨hnumbers.current τ hcurrent, hnumbers.current_queued τ hcurrent⟩
    · rw [hother τ' hne] at hτ
      exact h.queued τ' hτ
  · have hi : .ended i .application ∈ es := by simpa using hi
    obtain ⟨hsome, hleft, -⟩ := h.application i hi
    exact ⟨hsome, hleft, fun _ hτ => (nomatch hτ)⟩

/-- **Step lemma.** -/
theorem TaskEffects.moves (h : TaskEffects es s) (hinv : DispatchInv s) (hnumbers : TaskNumbers s)
    (hu : TaskUndisturbed s a) (hmoves : DispatchMoves s a s' out) :
    TaskEffects (es ++ out) s' := by
  have hquiet := h.of_quiet hmoves
  cases hmoves with
  | create title rating gameId hm hb =>
      refine hquiet (by simp) rfl (fun _ hτ => .inl hτ) le_rfl (fun τ _ hslot _ => ?_)
        (fun b τ hend => ?_) fun b hsome _ hslot => ?_
      · rw [hb] at hslot
        cases hslot
      · rw [hm] at hend
        cases hend
      · rw [← Option.some.inj hslot, hinv.fresh s.next le_rfl] at hsome
        cases hsome
  | finishStart b hm =>
      refine hquiet (by simp) rfl (fun _ hτ => .inl hτ) le_rfl (fun τ _ hslot _ => ⟨hslot, rfl⟩)
        (fun b τ hend => ?_) fun _ _ hslot => hslot
      rw [hm] at hend
      cases hend
  | advance b a w w' out hb ha hs =>
      refine hquiet (fun e he => ?_) rfl (fun τ hτ => ?_) (Nat.le_add_right ..)
        (fun τ _ hslot hm => ⟨hslot, hm⟩) (fun _ _ hend => hend) fun _ _ hslot => hslot
      · obtain ⟨e', -, rfl⟩ := List.mem_map.mp he
        exact ⟨b, e', rfl⟩
      · exact (List.mem_append.mp hτ).imp_right fun hτ => (number_of_mem_newTasks hτ).1
  | takeToEnd b hm hb =>
      -- the one step the condition is about
      refine hquiet (by simp) rfl (fun _ hτ => .inl hτ) le_rfl (fun τ hτ => absurd hτ (hu rfl τ))
        (fun b τ hend => ?_) fun _ _ hslot => hslot
      rw [hm] at hend
      cases hend
  | finishEnd b w hm hb hw => exact h.finishEnd hinv hm
  | finishTask b τ w hm hb hw => exact h.finishTask hinv hnumbers hm
  | find τ rest ht hq hm hb =>
      rw [List.append_nil]
      exact h.find ht hq hm hb
  | skip τ rest ht hq =>
      exact hquiet (by simp) rfl (fun τ' hτ => .inl (by rw [hq]; exact List.mem_cons_of_mem τ hτ))
        le_rfl (fun _ _ hslot hm => ⟨hslot, hm⟩) (fun _ _ hend => hend) fun _ _ hslot => hslot
  | endTask τ b ht hm hb =>
      rw [List.append_nil]
      exact h.endTask ht hb
  | endNothing τ ht hm hb =>
      -- the task has found its broadcast, and it is still there
      rw [(h.found τ ht).2.1] at hb
      cases hb
  | callTask τ ht => exact h.callTask hnumbers ht
  | stay a =>
      rw [List.append_nil]
      exact h

end

/-! ## Every run -/

section

variable {tr : List (Dispatch × DispatchAction)} {es : List DispatchEvent} {s : Dispatch}

/-- **Run lemma.** -/
theorem DispatchRuns.taskEffects (h : DispatchRuns tr es s)
    (hu : Machine.Meets TaskUndisturbed tr) : TaskEffects es s := by
  refine (Machine.Run.induction_on_steps (C := TaskUndisturbed)
    (I := fun es s => DispatchInv s ∧ TaskNumbers s ∧ TaskEffects es s)
    ⟨dispatchInv_init, ⟨by simp, .nil, by simp [TaskState.current], by simp⟩, taskEffects_init⟩
    ?_ h hu).2.2
  rintro es s a s' out ⟨hinv, hnumbers, heffects⟩ hu hs
  have hmoves := dispatchMoves_of_step hs
  exact ⟨hinv.moves hmoves, hnumbers.moves hinv hmoves, heffects.moves hinv hnumbers hu hmoves⟩

/-- **The failure tasks.**  In every run of an instance all of whose steps meet the
condition: every task stops exactly its own broadcast and then calls the callback, or
has no effect; and no task calls the callback of a broadcast after the application has
ended it. -/
theorem tasks_lawful (h : DispatchRuns tr es s) (hu : Machine.Meets TaskUndisturbed tr) :
    (∀ τ, TaskLawful τ es s) ∧
    ∀ l₁ b l₂ τ, es = l₁ ++ .ended b .application :: l₂ → τ.broadcast = b →
      .failedCallback τ ∉ l₂ := by
  constructor
  · intro τ
    have heffects := h.taskEffects hu
    by_cases hτ : s.task.current = some τ
    · rcases ht : s.task with _ | τ' | τ' | τ'
      all_goals
        rw [ht] at hτ
        try rw [Option.some.inj hτ] at ht
      · cases hτ
      · exact .inl (heffects.found τ ht).1
      · exact .inl (heffects.ending τ ht).1
      · exact .inr (.inl ⟨heffects.calling τ ht, ht⟩)
    · rcases heffects.done τ hτ with hnone | hall
      · exact .inl hnone
      · exact .inr (.inr hall)
  · -- at the call of the callback its task is the current one, and so about no broadcast
    -- the application has ended
    rintro l₁ b l₂ τ hes rfl hmem
    obtain ⟨k₁, k₂, rfl⟩ := List.append_of_mem hmem
    have hes' : es = (l₁ ++ .ended τ.broadcast .application :: k₁) ++ .failedCallback τ :: k₂ := by
      simp [hes]
    obtain ⟨tr₁, tr₂, t, htr, hrun, ht⟩ := h.calling_of_failedCallback hes'
    rw [htr] at hu
    obtain ⟨-, -, hcurrent⟩ := (hrun.taskEffects hu.of_append).application τ.broadcast (by simp)
    exact hcurrent τ (by rw [ht]; rfl) rfl

end

/-! ## A task with and without the application coming between -/

/-- The steps of an instance whose first broadcast fails, with a call of `endBroadcast`
once its task is through. -/
def taskActions : List DispatchAction := failActions ++ endTaskActions 0 ++ [.endBroadcast]

/-- The steps of an instance that ends the broadcast and starts another when the task
has found it. -/
def disturbedActions : List DispatchAction :=
  failActions ++ .endBroadcast :: List.replicate 3 (.broadcast 0 .stop) ++ [.finishEnd] ++
    createActions 1 ++ .endTask :: offerFails 1 ++ List.replicate 3 (.broadcast 1 .stop) ++
    [.finishEnd, .callTask]

/-- The task stops the broadcast that failed and calls its callback. -/
theorem tasks_lawful_undisturbed :
    ∃ tr es s, DispatchRuns tr es s ∧ tr.map Prod.snd = taskActions ∧
      .failedCallback ⟨0, 0, .failure⟩ ∈ es ∧ ∀ τ, TaskLawful τ es s := by
  obtain ⟨s, es, hexec, hmem⟩ : ∃ s es, dispatchMachine.exec {} taskActions = some (s, es) ∧
      .failedCallback ⟨0, 0, .failure⟩ ∈ es :=
    ⟨_, _, rfl, by decide⟩
  refine ⟨_, es, s, Machine.Run.of_exec hexec, Machine.map_snd_trace hexec, hmem,
    (tasks_lawful (Machine.Run.of_exec hexec) fun p hp ha τ hτ => ?_).1⟩
  have hcheck : ((dispatchMachine.trace {} taskActions).all
      fun p => p.2 ≠ .endBroadcast ∨ p.1.task = .idle) = true := by decide
  have hidle := List.all_eq_true.mp hcheck p hp
  simp [ha, hτ] at hidle

/-- The task of a broadcast the application has ended stops the next one, and calls
the callback of the first. -/
theorem not_taskLawful_disturbed :
    ∃ tr es s l₁ l₂, DispatchRuns tr es s ∧ tr.map Prod.snd = disturbedActions ∧
      .ended 1 (.task ⟨0, 0, .failure⟩) ∈ es ∧ ¬ TaskLawful ⟨0, 0, .failure⟩ es s ∧
      es = l₁ ++ .ended 0 .application :: l₂ ∧ .failedCallback ⟨0, 0, .failure⟩ ∈ l₂ := by
  obtain ⟨s, es, hexec, hes⟩ : ∃ s es,
      dispatchMachine.exec {} disturbedActions = some (s, es) ∧
      es = [.broadcast 0 (.failureReported .broadcastThread .failure), .broadcast 0 .stopStored,
          .broadcast 0 .joined, .broadcast 0 .stopReturned] ++
        .ended 0 .application :: [.broadcast 1 (.failureReported .broadcastThread .failure),
          .broadcast 1 .stopStored, .broadcast 1 .joined, .broadcast 1 .stopReturned,
          .ended 1 (.task ⟨0, 0, .failure⟩), .failedCallback ⟨0, 0, .failure⟩] :=
    ⟨_, _, rfl, rfl⟩
  refine ⟨_, es, s, _, _, Machine.Run.of_exec hexec, Machine.map_snd_trace hexec, by simp [hes],
    ?_, hes, by simp⟩
  rw [hes]
  rintro (heffects | ⟨heffects, -⟩ | heffects)
  all_goals
    revert heffects
    decide

end Caff
