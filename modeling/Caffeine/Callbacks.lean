/-
# The callbacks of a broadcast

What an application can count on when it is called back: no two broadcasts of an
instance run at a time, `startedCallback` comes at most once and not after the
broadcast has been stopped, and `failedCallback` comes at most once, after the
broadcast thread has been joined, with no `startedCallback` to follow.  The lock, the
compare-and-swap of the states and the serial queue bring this about together.
-/
import Caffeine.Dispatch

namespace Caff

/-! ## One broadcast -/

section

variable {s s' : World} {o : Outcome} {out : List Event} {title gameId : Bytes} {rating : Rating}
  {tr : List (World × Action)} {es : List Event}

/-- `startedCallback` is called on the way out of the first region, which the thread
does not come back to. -/
theorem RegionMoves.startedCallback (hmoves : RegionMoves s o s' out) :
    (.startedCallback ∈ out → s.thread.region = .starting ∧ out = [.startedCallback]) ∧
    (s'.thread.region = .starting → s.thread.region = .starting ∧ .startedCallback ∉ out) := by
  cases hmoves with
  | starting h h' hout => simp [hout, h]
  | started h h' hout => simp [hout, h, h']
  | startFailed h h' hout =>
      exact ⟨fun hmem => (nomatch hout _ hmem), fun hr => by rw [h'] at hr; cases hr⟩
  | streaming h h' ho hout =>
      exact ⟨fun hmem => (nomatch hout _ hmem), fun hr => by rw [h'] at hr; cases hr⟩
  | answered x payload h ho h' hout =>
      refine ⟨fun hmem => ?_, fun hr => by rw [h'] at hr; cases hr⟩
      rw [hout] at hmem
      rcases startAnswered_events s payload with ⟨hev, -⟩ | ⟨hev, -⟩ | ⟨hev, -⟩ <;>
        simp [hev] at hmem
  | streamFailed h h' ho hout =>
      refine ⟨fun hmem => ?_, fun hr => by rw [h'] at hr; cases hr⟩
      rcases hout _ hmem with he | he <;> cases he
  | wentLive p h hstate h' hout => simp [hout, h']
  | missedLive p h hstate h' hout => simp [hout, h']
  | looping h h' ho hafter hout =>
      refine ⟨fun hmem => ?_, fun hr => by rw [h'] at hr; cases hr⟩
      rcases hout _ hmem with he | he | he <;> cases he
  | loopStopped h hstate h' hout => simp [hout, h']
  | loopEnded h h' hwhy hout =>
      refine ⟨fun hmem => ?_, fun hr => by rw [h'] at hr; cases hr⟩
      rcases hout _ hmem with he | he <;> cases he
  | stopped h h' hout => simp [hout, h']
  | ended h h' hout => simp [hout, h']

/-- `startedCallback` is called at most once. -/
theorem Runs.count_startedCallback_le (h : Runs title rating gameId tr es s) :
    es.count .startedCallback ≤ 1 := by
  have hcount : (threadEvents es).count .startedCallback ≤ 1 ∧
      (s.thread.region = .starting → (threadEvents es).count .startedCallback = 0) := by
    refine h.thread_induction (I := fun _ l t => l.count .startedCallback ≤ 1 ∧
      (t.region = .starting → l.count .startedCallback = 0)) ?_ ?_ ?_ ?_
    · exact ⟨by simp, fun _ => by simp⟩
    · exact fun _ _ _ _ hI _ => ⟨hI.1, fun _ => hI.2 rfl⟩
    · exact fun _ _ _ _ hI _ => hI
    · rintro - l s o s' out ⟨hle, hzero⟩ hmoves
      obtain ⟨hmem, hstay⟩ := hmoves.regionMoves.startedCallback
      rw [List.count_append]
      by_cases hin : .startedCallback ∈ out
      · obtain ⟨hr, hout⟩ := hmem hin
        rw [hzero hr, hout]
        exact ⟨by simp, fun hr' => absurd hin (hstay hr').2⟩
      · rw [List.count_eq_zero_of_not_mem hin]
        exact ⟨hle, fun hr' => hzero (hstay hr').1⟩
  rw [← List.count_filter (p := Event.ofThread) (l := es) (a := Event.startedCallback) rfl]
  exact hcount.1

/-- A broadcast that has been stopped has had its thread joined, and shows both. -/
theorem Runs.mem_of_returned (h : Runs title rating gameId tr es s) :
    s.stopCall = .returned → .joined ∈ es ∧ .stopReturned ∈ es := by
  have hall : (s.stopCall = .joined ∨ s.stopCall = .returned → .joined ∈ es) ∧
      (s.stopCall = .returned → .stopReturned ∈ es) := by
    refine Machine.Run.induction_on_trace (I := fun _ es s =>
      (s.stopCall = .joined ∨ s.stopCall = .returned → .joined ∈ es) ∧
        (s.stopCall = .returned → .stopReturned ∈ es)) ?_ ?_ h
    · refine ⟨fun hc => ?_, fun hc => (nomatch hc)⟩
      rcases hc with hc | hc <;> cases hc
    rintro - es s a s' out ⟨hjoined, hreturned⟩ hs
    have hmoves := moves_of_step hs
    -- only the steps of `stop` move its call and show its events
    by_cases ha : a = .stop
    · subst ha
      cases hmoves with
      | storeStopping hc hr => simp
      | join hc hj => simp
      | storeOffline hc => simp [hjoined (.inl hc)]
      | other a ha hcore hvideo hout =>
          rw [hcore.stopCall]
          exact ⟨fun hc => List.mem_append_left _ (hjoined hc),
            fun hc => List.mem_append_left _ (hreturned hc)⟩
    · rw [hmoves.stopCall_eq ha]
      exact ⟨fun hc => List.mem_append_left _ (hjoined hc),
        fun hc => List.mem_append_left _ (hreturned hc)⟩
  exact fun hc => ⟨hall.1 (.inr hc), hall.2 hc⟩

end

/-! ## All broadcasts of an instance -/

section

variable {tr : List (Dispatch × DispatchAction)} {es : List DispatchEvent} {s : Dispatch}

theorem mem_eventsOf_iff {b : ℕ} {e : Event} : e ∈ eventsOf b es ↔ .broadcast b e ∈ es := by
  rw [eventsOf, List.mem_filterMap]
  constructor
  · rintro ⟨e', he', h⟩
    rcases e' with ⟨i, e'⟩ | ⟨i, ender⟩ | τ
    · simp only [Option.ite_none_right_eq_some, Option.some.injEq] at h
      rw [← h.1, ← h.2]
      exact he'
    · cases h
    · cases h
  · exact fun h => ⟨.broadcast b e, h, by simp⟩

/-- An event of `b` is seen as often as `b` makes it. -/
theorem count_eventsOf {b : ℕ} {e : Event} :
    (eventsOf b es).count e = es.count (.broadcast b e) := by
  induction es with
  | nil => rfl
  | cons e' es ih =>
      have happend : eventsOf b (e' :: es) = eventsOf b [e'] ++ eventsOf b es :=
        eventsOf_append b [e'] es
      rw [happend, List.count_append, ih, List.count_cons, Nat.add_comm]
      congr 1
      rcases e' with ⟨i, e'⟩ | ⟨i, ender⟩ | τ
      · by_cases hib : i = b
        · simp [eventsOf, hib, List.count_singleton]
        · simp [eventsOf, hib]
      · simp [eventsOf]
      · simp [eventsOf]

/-- The failed callback of broadcast `b`. -/
def DispatchEvent.isFailedCallback (b : ℕ) : DispatchEvent → Bool
  | .failedCallback τ => τ.broadcast = b
  | _ => false

/-- Once the failed callback of `b` has been called no task is about `b` any more. -/
structure CalledInv (b : ℕ) (es : List DispatchEvent) (s : Dispatch) : Prop where
  count_le : es.countP (DispatchEvent.isFailedCallback b) ≤ 1
  there : 0 < es.countP (DispatchEvent.isFailedCallback b) → (s.broadcasts b).isSome = true
  left : 0 < es.countP (DispatchEvent.isFailedCallback b) → s.broadcast ≠ some b
  current : 0 < es.countP (DispatchEvent.isFailedCallback b) →
    ∀ τ, s.task.current = some τ → τ.broadcast ≠ b

theorem CalledInv.of_quiet {b : ℕ} {s' : Dispatch} {a : DispatchAction}
    {out : List DispatchEvent} (h : CalledInv b es s) (hmoves : DispatchMoves s a s' out)
    (hout : out.countP (DispatchEvent.isFailedCallback b) = 0)
    (hslot : (s.broadcasts b).isSome = true → s.broadcast ≠ some b → s'.broadcast ≠ some b)
    (hcurrent : s.broadcast ≠ some b → (∀ τ, s.task.current = some τ → τ.broadcast ≠ b) →
      ∀ τ, s'.task.current = some τ → τ.broadcast ≠ b) : CalledInv b (es ++ out) s' := by
  have hcount : (es ++ out).countP (DispatchEvent.isFailedCallback b) =
      es.countP (DispatchEvent.isFailedCallback b) := by
    rw [List.countP_append, hout, Nat.add_zero]
  constructor <;> rw [hcount]
  · exact h.count_le
  · exact fun hpos => hmoves.isSome_broadcasts (h.there hpos)
  · exact fun hpos => hslot (h.there hpos) (h.left hpos)
  · exact fun hpos => hcurrent (h.left hpos) (h.current hpos)

theorem CalledInv.moves {b : ℕ} {s' : Dispatch} {a : DispatchAction} {out : List DispatchEvent}
    (h : CalledInv b es s) (hinv : DispatchInv s) (hmoves : DispatchMoves s a s' out) :
    CalledInv b (es ++ out) s' := by
  have hquiet := h.of_quiet hmoves
  cases hmoves with
  | create title rating gameId hm hb =>
      refine hquiet rfl (fun hsome _ hslot => ?_) fun _ hcurrent => hcurrent
      rw [← Option.some.inj hslot, hinv.fresh s.next le_rfl] at hsome
      cases hsome
  | advance i a w w' out hb ha hs =>
      refine hquiet ?_ (fun _ hslot => hslot) fun _ hcurrent => hcurrent
      rw [List.countP_map]
      exact List.countP_eq_zero.mpr fun e _ => by simp [DispatchEvent.isFailedCallback]
  | finishEnd i w hm hb hw => exact hquiet rfl (fun _ _ => by simp) fun _ hcurrent => hcurrent
  | finishTask i τ w hm hb hw =>
      refine hquiet rfl (fun _ _ => by simp) fun _ hcurrent τ' hτ => hcurrent τ' ?_
      rw [hinv.held i τ hm]
      exact hτ
  | find τ rest ht hq hm hb =>
      refine hquiet rfl (fun _ hslot => hslot) fun hslot _ τ' hτ hτb => hslot ?_
      rw [hb, ← hτb, Option.some.inj hτ]
  | endTask τ i ht hm hb =>
      refine hquiet rfl (fun _ hslot => hslot) fun _ hcurrent τ' hτ => hcurrent τ' ?_
      rw [ht]
      exact hτ
  | endNothing τ ht hm hb =>
      refine hquiet rfl (fun _ hslot => hslot) fun _ hcurrent τ' hτ => hcurrent τ' ?_
      rw [ht]
      exact hτ
  | callTask τ ht =>
      by_cases hτ : τ.broadcast = b
      · -- the first call, for the task would not have found `b` otherwise
        obtain ⟨hsome, hslot⟩ := hinv.calling τ ht
        rw [hτ] at hsome hslot
        have hzero : es.countP (DispatchEvent.isFailedCallback b) = 0 := by
          by_contra hpos
          exact h.current (Nat.pos_of_ne_zero hpos) τ (by rw [ht]; rfl) hτ
        refine ⟨?_, fun _ => hsome, fun _ => hslot, fun _ τ' hτ' => (nomatch hτ')⟩
        rw [List.countP_append, hzero, Nat.zero_add]
        exact List.countP_le_length
      · refine hquiet ?_ (fun _ hslot => hslot) fun _ _ τ' hτ' => (nomatch hτ')
        simp [DispatchEvent.isFailedCallback, hτ]
  | _ => exact hquiet rfl (fun _ hslot => hslot) fun _ hcurrent => hcurrent

theorem DispatchRuns.calledInv (h : DispatchRuns tr es s) (b : ℕ) : CalledInv b es s := by
  refine (Machine.Run.induction_on_trace (I := fun _ es s => DispatchInv s ∧ CalledInv b es s)
    ⟨dispatchInv_init, ?_⟩ ?_ h).2
  · exact ⟨by simp, fun hpos => by simp at hpos, fun hpos => by simp at hpos,
      fun hpos => by simp at hpos⟩
  · rintro - es s a s' out ⟨hinv, hcalled⟩ hs
    have hmoves := dispatchMoves_of_step hs
    exact ⟨hinv.moves hmoves, hcalled.moves hinv hmoves⟩

/-- A broadcast that has left the slot shows that it has been stopped. -/
theorem DispatchRuns.stopped (h : DispatchRuns tr es s) {b : ℕ}
    (hb : (s.broadcasts b).isSome = true) (hslot : s.broadcast ≠ some b) :
    .broadcast b .joined ∈ es ∧ .broadcast b .stopReturned ∈ es := by
  obtain ⟨w, hw⟩ := Option.isSome_iff_exists.mp hb
  obtain ⟨title, rating, gameId, tr', hrun⟩ := (h.projection b).2 w hw
  obtain ⟨hjoined, hreturned⟩ := hrun.mem_of_returned (h.inv.stopped b w hw hslot)
  exact ⟨mem_eventsOf_iff.mp hjoined, mem_eventsOf_iff.mp hreturned⟩

/-- A running thread belongs to the broadcast in the slot. -/
theorem DispatchRuns.slot_of_running (h : DispatchRuns tr es s) {b : ℕ} {w : World}
    (hw : s.broadcasts b = some w) (hrunning : w.thread.running = true) :
    s.broadcast = some b := by
  by_contra hslot
  obtain ⟨title, rating, gameId, tr', es', hrun⟩ := h.exists_runs hw
  have hjoin := hrun.joinInv.joined (.inr (h.inv.stopped b w hw hslot))
  rw [not_running_of_canJoin hjoin] at hrunning
  cases hrunning

/-- Nothing of its thread is seen of a broadcast after its `stop` has returned. -/
theorem DispatchRuns.not_mem_of_stopReturned (h : DispatchRuns tr es s) {b : ℕ} {e : Event}
    {l₁ l₂ : List DispatchEvent} (hes : es = l₁ ++ l₂) (hreturned : .broadcast b .stopReturned ∈ l₁)
    (he : e.ofThread = true) : .broadcast b e ∉ l₂ := by
  intro hmem
  have hin : e ∈ eventsOf b es := by
    rw [hes, eventsOf_append]
    exact List.mem_append_right _ (mem_eventsOf_iff.mpr hmem)
  obtain ⟨w, title, rating, gameId, tr', -, hrun⟩ := h.exists_of_mem hin
  have hquiet := hrun.quiet_after_stop
  rw [hes, eventsOf_append, List.pairwise_append] at hquiet
  have hnot := hquiet.2.2 _ (mem_eventsOf_iff.mpr hreturned) e (mem_eventsOf_iff.mpr hmem) rfl
  rw [he] at hnot
  cases hnot

/-- **The callbacks.**  In every run of an instance: at most one of its broadcasts has a
running thread; and for each broadcast `startedCallback` is called at most once, and
never after its `stop` has returned; `failedCallback` is called at most once, after the
thread has been joined, and no `startedCallback` follows it. -/
theorem callbacks_of_broadcasts (h : DispatchRuns tr es s) :
    (∀ b b' w w', s.broadcasts b = some w → s.broadcasts b' = some w' →
      w.thread.running = true → w'.thread.running = true → b = b') ∧
    ∀ b, es.count (.broadcast b .startedCallback) ≤ 1 ∧
      (∀ l₁ l₂, es = l₁ ++ .broadcast b .stopReturned :: l₂ →
        .broadcast b .startedCallback ∉ l₂) ∧
      es.countP (DispatchEvent.isFailedCallback b) ≤ 1 ∧
      ∀ l₁ τ l₂, es = l₁ ++ .failedCallback τ :: l₂ → τ.broadcast = b →
        .broadcast b .joined ∈ l₁ ∧ .broadcast b .startedCallback ∉ l₂ := by
  refine ⟨fun b b' w w' hw hw' hrunning hrunning' => ?_, fun b => ⟨?_, ?_, ?_, ?_⟩⟩
  · -- both are in the slot
    have hslot := h.slot_of_running hw hrunning
    rw [h.slot_of_running hw' hrunning'] at hslot
    exact (Option.some.inj hslot).symm
  · rw [← count_eventsOf]
    by_cases hmem : .startedCallback ∈ eventsOf b es
    · obtain ⟨w, title, rating, gameId, tr', -, hrun⟩ := h.exists_of_mem hmem
      exact hrun.count_startedCallback_le
    · rw [List.count_eq_zero_of_not_mem hmem]
      exact Nat.zero_le 1
  · intro l₁ l₂ hes
    have hes' : es = (l₁ ++ [.broadcast b .stopReturned]) ++ l₂ := by simp [hes]
    exact h.not_mem_of_stopReturned hes' (by simp) rfl
  · exact (h.calledInv b).count_le
  · -- when the callback is called the broadcast has left the slot, and has been stopped
    rintro l₁ τ l₂ hes rfl
    obtain ⟨tr₁, tr₂, t, -, hrun, ht⟩ := h.calling_of_failedCallback hes
    obtain ⟨hsome, hslot⟩ := hrun.inv.calling τ ht
    obtain ⟨hjoined, hreturned⟩ := hrun.stopped hsome hslot
    have hes' : es = (l₁ ++ [.failedCallback τ]) ++ l₂ := by simp [hes]
    exact ⟨hjoined, h.not_mem_of_stopReturned hes' (by simp [hreturned]) rfl⟩

end

/-! ## A broadcast that fails -/

/-- The callbacks of a broadcast that fails while it is starting. -/
theorem callbacks_of_broadcasts_failed :
    ∃ tr es s, DispatchRuns tr es s ∧ tr.map Prod.snd = failActions ++ endTaskActions 0 ∧
      .failedCallback ⟨0, 0, .failure⟩ ∈ es ∧
      es.countP (DispatchEvent.isFailedCallback 0) ≤ 1 ∧
      es.count (.broadcast 0 .startedCallback) ≤ 1 := by
  obtain ⟨s, es, hexec, hes⟩ : ∃ s es,
      dispatchMachine.exec {} (failActions ++ endTaskActions 0) = some (s, es) ∧
      es = [.broadcast 0 (.failureReported .broadcastThread .failure),
        .broadcast 0 .stopStored, .broadcast 0 .joined, .broadcast 0 .stopReturned,
        .ended 0 (.task ⟨0, 0, .failure⟩), .failedCallback ⟨0, 0, .failure⟩] :=
    ⟨_, _, rfl, rfl⟩
  have hcallbacks := (callbacks_of_broadcasts (Machine.Run.of_exec hexec)).2 0
  exact ⟨_, es, s, Machine.Run.of_exec hexec, Machine.map_snd_trace hexec, by simp [hes],
    hcallbacks.2.2.1, hcallbacks.1⟩

end Caff
