/-
# An instance comes to rest

What an instance has begun it can bring to an end by itself: a start, the end of a broadcast,
and the failure tasks of the queue.  The steps that are left are bounded all together, though
the thread of a broadcast that is being ended may report failures on its way out and so post
further tasks.  At rest no broadcast is in the slot that has a failure posted.

The steps are those of `Dispatch.lean`, so the callbacks do not call the API.
-/
import Caffeine.Teardown
import Caffeine.Stopping

namespace Caff

/-! ## Failures of a step -/

/-- The failures that are reported. -/
def failures (out : List Event) : List Result := out.filterMap Event.failure

section

variable {s s' : World} {o : Outcome} {out : List Event}

theorem failures_access (s : World) (p : Stage) : failures (p.access s) = [] := by
  cases p with
  | sendScreenshot =>
      by_cases hid : s.broadcastId.isSome = true
      · rw [Stage.access, if_pos hid]
        rfl
      · rw [Stage.access, if_neg hid]
        rfl
  | _ => rfl

theorem failures_abortEvents (s : World) : failures s.abortEvents = [] := by
  unfold World.abortEvents
  split
  · exact failures_access s _
  · rfl
  · rfl
  · rfl

/-- A step of the thread reports one failure at most. -/
theorem ThreadMoves.length_failures_le (h : ThreadMoves s o s' out) :
    (failures out).length ≤ 1 := by
  cases h with
  | advance p ht hok =>
      rw [failures_access]
      exact Nat.zero_le 1
  | giveUp o p error exit ht ho hg =>
      have happend : failures (p.access s ++ [.failureReported .broadcastThread error]) =
          failures (p.access s) ++ [error] := List.filterMap_append
      rw [happend, failures_access]
      exact le_rfl
  | startAnswered x payload ht hserved =>
      rcases startAnswered_events s payload with ⟨hout, -⟩ | ⟨hout, -⟩ | ⟨hout, -⟩
      · rw [hout]
        exact Nat.zero_le 1
      · rw [hout]
        exact le_rfl
      · rw [hout]
        exact le_rfl
  | abort hw =>
      rw [failures_abortEvents]
      exact Nat.zero_le 1
  | _ => exact of_decide_eq_true rfl

end

/-! ## What is left to do -/

/-- The steps left to the call of `start`. -/
def StartCall.stepsLeft : StartCall → ℕ
  | .notCalled => 2
  | .awaitingEncoderInfo => 1
  | .returned | .raised => 0

/-- What is left to do for a broadcast in the slot, if it has to be ended.  A step of its
thread counts for more than a task that the step may post. -/
def World.workLeft (w : World) : ℕ :=
  w.startCall.stepsLeft +
    if w.stopCall = .notCalled then 75 else 8 * w.thread.stepsLeft + w.stopCall.stepsLeft

def TaskState.workLeft : TaskState → ℕ
  | .idle => 0
  | .calling _ => 1
  | .ending _ => 2
  | .found _ => 3

namespace Dispatch

/-- What is left to do for the broadcast in the slot, and to take it out. -/
def slotWork (s : Dispatch) : ℕ :=
  match s.broadcast with
  | some b => 1 + ((s.broadcasts b).map World.workLeft).getD 0
  | none => 0

/-- The start that is under way has to let go of the lock. -/
def startWork (s : Dispatch) : ℕ :=
  match s.broadcastMutex with
  | some (.starting _) => 1
  | _ => 0

def workLeft (s : Dispatch) : ℕ :=
  4 * s.taskQueue.length + s.task.workLeft + s.slotWork + s.startWork

/-- Nothing that has been begun is left to do. -/
structure AtRest (s : Dispatch) : Prop where
  broadcastMutex : s.broadcastMutex = none
  taskQueue : s.taskQueue = []
  task : s.task = .idle

/-- The thread of the broadcast in the slot has not died of an exception. -/
def Sound (s : Dispatch) : Prop :=
  ∀ b w, s.broadcast = some b → s.broadcasts b = some w → w.thread ≠ .aborted

end Dispatch

/-- A step that the instance takes by itself, without an exception. -/
def DispatchAction.Internal (_ : Dispatch) : DispatchAction → Prop
  | .startBroadcast .. | .endBroadcast => False
  | .broadcast _ a =>
      a = .start ∨ a = .encoderInfo false ∨ a = .stop ∨ ∃ o, o ≠ .raised ∧ a = .thread o
  | _ => True

/-! ## The broadcast in the slot -/

section

variable {w : World}

/-- A `start` that has not come back can go on, and need not throw. -/
theorem World.exists_startStep (hinv : JoinInv w) (hr : ¬ w.reachable = true)
    (hlive : w.thread ≠ .aborted) :
    ∃ c w', (c = .start ∨ c = .encoderInfo false) ∧ w.step c = some (w', []) ∧
      w'.thread ≠ .aborted ∧ w'.workLeft < w.workLeft := by
  have hstop : w.stopCall = .notCalled :=
    hinv.stopCall_of_not_reachable (Bool.eq_false_iff.mpr hr)
  cases hc : w.startCall with
  | notCalled =>
      refine ⟨.start, { w with
        state := if w.state = .offline then .starting else w.state
        startCall := .awaitingEncoderInfo }, .inl rfl, ?_, ?_, ?_⟩
      · show (w.startStep).map (·, []) = _
        rw [World.startStep, hc]
        rfl
      · exact hlive
      · simp [World.workLeft, StartCall.stepsLeft, hstop, hc]
  | awaitingEncoderInfo =>
      refine ⟨.encoderInfo false,
        { w with startCall := .returned, thread := .stage .setupSubscription }, .inr rfl,
        ?_, ?_, ?_⟩
      · show (w.encoderInfoStep false).map (·, []) = _
        rw [World.encoderInfoStep, hc]
        rfl
      · exact Thread.noConfusion
      · simp [World.workLeft, StartCall.stepsLeft, hstop, hc]
  | returned => simp [World.reachable, hc] at hr
  | raised => simp [World.reachable, hc] at hr

/-- A broadcast that is being ended comes nearer to the return of `stop`, also if its thread
reports a failure on the way. -/
theorem World.exists_endStep (hstate : StateInv w) (hinv : JoinInv w) (hr : w.reachable = true)
    (hlive : w.thread ≠ .aborted) (hnot : w.stopCall ≠ .returned) :
    ∃ c w' shown, (c = .stop ∨ ∃ o, o ≠ .raised ∧ c = .thread o) ∧
      w.step c = some (w', shown) ∧ w'.thread ≠ .aborted ∧
      4 * (failures shown).length + w'.workLeft < w.workLeft := by
  by_cases hstop : w.stopCall = .notCalled
  · refine ⟨.stop, { w with state := .stopping, stopCall := .joining }, [.stopStored], .inl rfl,
      ?_, hlive, ?_⟩
    · show w.stopStep = _
      simp only [World.stopStep, hstop, if_pos hr]
    · have hthread : w.thread.stepsLeft ≤ 9 := w.thread.stepsLeft_le
      have hnone : (failures [Event.stopStored]).length = 0 := rfl
      simp only [World.workLeft, hstop, hnone, if_true, reduceCtorEq, if_false,
        StopCall.stepsLeft]
      omega
  · have hs : w.Stopped := ⟨hstop, hstate, hinv⟩
    by_cases hrunning : w.thread.running = true
    · -- eight for the step, and four for the task it may post
      obtain ⟨o, w', shown, ho, h⟩ := exists_threadStep hrunning
      have hmoves := threadMoves_of_threadStep h
      have hlt := hmoves.stepsLeft_lt hs
      have hposts := hmoves.length_failures_le
      refine ⟨.thread o, w', shown, .inr ⟨o, Outcome.ne_raised ho, rfl⟩, h,
        hmoves.ne_aborted (Outcome.ne_raised ho), ?_⟩
      simp only [World.workLeft, hmoves.stopCall_eq, hmoves.startCall_eq, if_neg hstop]
      omega
    · obtain ⟨w', shown, h, hthread, hstart, hlt, hshown⟩ :=
        hs.exists_stopStep hlive hrunning hnot
      have hstep : w.step .stop = some (w', shown) := h
      have hstop' : w'.stopCall ≠ .notCalled := (hs.moves (moves_of_step hstep)).stopCall
      have hnone : (failures shown).length = 0 := by
        rcases hshown with rfl | rfl <;> rfl
      refine ⟨.stop, w', shown, .inl rfl, h, by rwa [hthread], ?_⟩
      simp only [World.workLeft, hthread, hstart, if_neg hstop, if_neg hstop', hnone]
      omega

end

/-! ## Away from rest there is a step -/

section

variable {s s' : Dispatch} {a : DispatchAction} {out : List DispatchEvent}
variable {b : ℕ} {w w' : World} {c : Action} {shown : List Event}

/-- A broadcast takes a step. -/
theorem Dispatch.step_broadcast (hb : s.broadcasts b = some w) (ha : s.allows b c = true)
    (hs : w.step c = some (w', shown)) :
    s.step (.broadcast b c) = some (s.advance b w' shown, shown.map (.broadcast b)) := by
  simp only [Dispatch.step, hb, if_pos ha, hs]

theorem Dispatch.slotWork_of_slot (hslot : s.broadcast = some b) (hb : s.broadcasts b = some w) :
    s.slotWork = 1 + w.workLeft := by
  simp only [Dispatch.slotWork, hslot, hb, Option.map_some, Option.getD_some]

/-- A step of the broadcast in the slot that does more than it posts. -/
theorem Dispatch.workLeft_advance_lt (hslot : s.broadcast = some b)
    (hb : s.broadcasts b = some w)
    (hlt : 4 * (failures shown).length + w'.workLeft < w.workLeft) :
    (s.advance b w' shown).workLeft < s.workLeft := by
  have hqueue : (s.advance b w' shown).taskQueue.length =
      s.taskQueue.length + (failures shown).length := by
    rw [Dispatch.advance, List.length_append, Dispatch.newTasks, List.length_mapIdx]
    rfl
  have hafter : (s.advance b w' shown).slotWork = 1 + w'.workLeft :=
    Dispatch.slotWork_of_slot (s := s.advance b w' shown) hslot (Function.update_self ..)
  have htask : (s.advance b w' shown).task = s.task := rfl
  have hstart : (s.advance b w' shown).startWork = s.startWork := rfl
  rw [Dispatch.workLeft, Dispatch.workLeft, hqueue, hafter, htask, hstart,
    Dispatch.slotWork_of_slot hslot hb]
  omega

/-- `startBroadcast` lets go of the lock when its broadcast can be got at. -/
def Dispatch.LetGo (s : Dispatch) : Prop :=
  ∀ b w, s.broadcast = some b → s.broadcasts b = some w →
    s.broadcastMutex ≠ some (.starting b) → w.reachable = true

theorem Dispatch.LetGo.step (h : s.LetGo) (hinv : DispatchInv s)
    (hs : s.step a = some (s', out)) : s'.LetGo := by
  intro b w hslot hb hm
  have hmoves := dispatchMoves_of_step hs
  cases hmoves with
  | create title rating gameId hm' hb' => exact absurd (by rw [← Option.some.inj hslot]) hm
  | finishStart b' hm' =>
      have hb' : b' = b := by
        have hslot : s.broadcast = some b := hslot
        rw [hinv.starting b' hm'] at hslot
        exact Option.some.inj hslot
      have hb : s.broadcasts b = some w := hb
      subst hb'
      by_contra hr
      simp only [Dispatch.step, hm', hb, Option.any_some, if_neg hr, reduceCtorEq] at hs
  | advance i c v v' shown hi ha hv =>
      have hb : Function.update s.broadcasts i (some v') b = some w := hb
      by_cases hbi : b = i
      · subst hbi
        rw [Function.update_self] at hb
        rw [← Option.some.inj hb]
        exact (moves_of_step hv).reachable (h b v hslot hi hm)
      · rw [Function.update_of_ne hbi] at hb
        exact h b w hslot hb hm
  | takeToEnd i hm' hb' => exact h b w hslot hb (by rw [hm']; simp)
  | endTask τ i ht hm' hb' => exact h b w hslot hb (by rw [hm']; simp)
  | finishEnd i v hm' hb' hv => cases hslot
  | finishTask i τ v hm' hb' hv => cases hslot
  | _ => exact h b w hslot hb hm

/-- A step of the broadcast in the slot that does more than it posts and does not abort the
thread. -/
theorem Dispatch.exists_advance (hslot : s.broadcast = some b) (hb : s.broadcasts b = some w)
    (ha : s.allows b c = true) (hs : w.step c = some (w', shown))
    (hinternal : DispatchAction.Internal s (.broadcast b c)) (hlive : w'.thread ≠ .aborted)
    (hlt : 4 * (failures shown).length + w'.workLeft < w.workLeft) :
    ∃ a s' out, DispatchAction.Internal s a ∧ s.step a = some (s', out) ∧ s'.Sound ∧
      s'.workLeft < s.workLeft := by
  refine ⟨_, _, _, hinternal, Dispatch.step_broadcast hb ha hs, fun i v hi hv => ?_,
    Dispatch.workLeft_advance_lt hslot hb hlt⟩
  have hi : s.broadcast = some i := hi
  have hv : Function.update s.broadcasts b (some w') i = some v := hv
  rw [hslot] at hi
  rw [← Option.some.inj hi, Function.update_self] at hv
  rwa [← Option.some.inj hv]

/-- While a start is under way. -/
theorem Dispatch.exists_step_of_starting (hinv : DispatchInv s) (hsound : s.Sound)
    (hjoin : ∀ b w, s.broadcasts b = some w → JoinInv w)
    (hm : s.broadcastMutex = some (.starting b)) :
    ∃ a s' out, DispatchAction.Internal s a ∧ s.step a = some (s', out) ∧ s'.Sound ∧
      s'.workLeft < s.workLeft := by
  have hslot := hinv.starting b hm
  obtain ⟨w, hb⟩ := Option.isSome_iff_exists.mp (hinv.slot b hslot)
  by_cases hr : w.reachable = true
  · refine ⟨.finishStart, { s with broadcastMutex := none }, [], trivial, ?_, hsound, ?_⟩
    · simp only [Dispatch.step, hm, hb, Option.any_some, if_pos hr]
    · show _ + _ + _ + 0 < _
      simp only [Dispatch.workLeft, Dispatch.startWork, hm]
      exact Nat.lt_succ_self _
  · obtain ⟨c, w', hc, hs, hlive, hlt⟩ :=
      World.exists_startStep (hjoin b w hb) hr (hsound b w hslot hb)
    have ha : s.allows b c = true := by
      rcases hc with rfl | rfl <;> simp [Dispatch.allows, hm]
    refine Dispatch.exists_advance hslot hb ha hs ?_ hlive (by simpa [failures] using hlt)
    exact hc.imp_right .inl

/-- While a broadcast is being ended. -/
theorem Dispatch.exists_step_of_ending {ender : Ender} (hinv : DispatchInv s) (hsound : s.Sound)
    (hstate : ∀ b w, s.broadcasts b = some w → StateInv w)
    (hjoin : ∀ b w, s.broadcasts b = some w → JoinInv w) (hgo : s.LetGo)
    (hm : s.broadcastMutex = some (.ending b ender)) :
    ∃ a s' out, DispatchAction.Internal s a ∧ s.step a = some (s', out) ∧ s'.Sound ∧
      s'.workLeft < s.workLeft := by
  have hslot := hinv.ending b ender hm
  obtain ⟨w, hb⟩ := Option.isSome_iff_exists.mp (hinv.slot b hslot)
  by_cases hreturned : w.stopCall = .returned
  · have hwork := Dispatch.slotWork_of_slot hslot hb
    have hany : (s.broadcasts b).any (·.stopCall = .returned) = true := by
      rw [hb, Option.any_some, decide_eq_true hreturned]
    cases ender with
    | application =>
        refine ⟨.finishEnd, { s with broadcast := none, broadcastMutex := none },
          [.ended b .application], trivial, ?_,
          fun _ _ hnone => (Option.some_ne_none _ hnone.symm).elim, ?_⟩
        · simp only [Dispatch.step, hm, if_pos hany]
        · show _ + _ + 0 + 0 < _
          simp only [Dispatch.workLeft, hwork]
          omega
    | task τ =>
        refine ⟨.finishEnd,
          { s with broadcast := none, broadcastMutex := none, task := .calling τ },
          [.ended b (.task τ)], trivial, ?_,
          fun _ _ hnone => (Option.some_ne_none _ hnone.symm).elim, ?_⟩
        · simp only [Dispatch.step, hm, if_pos hany]
        · show _ + 1 + 0 + 0 < _
          simp only [Dispatch.workLeft, hwork, hinv.held b τ hm, TaskState.workLeft]
          omega
  · have hr : w.reachable = true := hgo b w hslot hb (by rw [hm]; simp)
    obtain ⟨c, w', shown, hc, hs, hlive, hlt⟩ :=
      World.exists_endStep (hstate b w hb) (hjoin b w hb) hr (hsound b w hslot hb) hreturned
    have ha : s.allows b c = true := by
      rcases hc with rfl | ⟨o, -, rfl⟩ <;> simp [Dispatch.allows, hm]
    refine Dispatch.exists_advance hslot hb ha hs ?_ hlive hlt
    exact .inr (.inr hc)

/-- While a task or the queue goes on. -/
theorem Dispatch.exists_step_of_task (hinv : DispatchInv s) (hsound : s.Sound)
    (hm : s.broadcastMutex = none) (hrest : ¬ s.AtRest) :
    ∃ a s' out, DispatchAction.Internal s a ∧ s.step a = some (s', out) ∧ s'.Sound ∧
      s'.workLeft < s.workLeft := by
  cases ht : s.task with
  | calling τ =>
      refine ⟨.callTask, { s with task := .idle }, [.failedCallback τ], trivial, ?_, hsound, ?_⟩
      · simp only [Dispatch.step, ht]
      · show _ + 0 + s.slotWork + s.startWork < _
        simp only [Dispatch.workLeft, ht, TaskState.workLeft]
        omega
  | ending τ => exact absurd ht (hinv.task_ne_ending (by simp [hm]) τ)
  | found τ =>
      cases hslot : s.broadcast with
      | none =>
          refine ⟨.endTask, { s with task := .calling τ }, [], trivial, ?_, hsound, ?_⟩
          · simp only [Dispatch.step, ht, hm, hslot, if_true]
          · show _ + 1 + s.slotWork + s.startWork < _
            simp only [Dispatch.workLeft, ht, TaskState.workLeft]
            omega
      | some b =>
          refine ⟨.endTask,
            { s with broadcastMutex := some (.ending b (.task τ)), task := .ending τ },
            [], trivial, ?_, hsound, ?_⟩
          · simp only [Dispatch.step, ht, hm, hslot, if_true, Dispatch.takeToEnd]
          · show _ + 2 + s.slotWork + 0 < _
            simp only [Dispatch.workLeft, ht, TaskState.workLeft]
            omega
  | idle =>
      cases hq : s.taskQueue with
      | nil => exact absurd ⟨hm, hq, ht⟩ hrest
      | cons τ rest =>
          refine ⟨.checkTask, { s with
            taskQueue := rest
            task := if s.broadcast = some τ.broadcast then .found τ else .idle },
            [], trivial, ?_, hsound, ?_⟩
          · simp only [Dispatch.step, ht, hq, hm, if_true]
          · have htask : (if s.broadcast = some τ.broadcast then TaskState.found τ
                else .idle).workLeft ≤ 3 := by
              split_ifs
              · exact le_rfl
              · exact Nat.zero_le 3
            show 4 * rest.length + (if s.broadcast = some τ.broadcast then TaskState.found τ
              else .idle).workLeft + s.slotWork + s.startWork < _
            rw [Dispatch.workLeft, hq, List.length_cons]
            omega

end

/-! ## Failures are attended to -/

theorem failures_append (out out' : List Event) :
    failures (out ++ out') = failures out ++ failures out' :=
  List.filterMap_append

/-- There is a task for a broadcast in the slot that has reported a failure. -/
def Dispatch.Attended (es : List DispatchEvent) (s : Dispatch) : Prop :=
  ∀ b, s.broadcast = some b → failures (eventsOf b es) ≠ [] →
    ∃ τ, τ.broadcast = b ∧ (τ ∈ s.taskQueue ∨ s.task = .found τ ∨ s.task = .ending τ)

section

variable {tr : List (Dispatch × DispatchAction)} {es out : List DispatchEvent} {s s' : Dispatch}
  {a : DispatchAction}

/-- **Step lemma.** -/
theorem Dispatch.Attended.step (h : s.Attended es) (hinv : DispatchInv s)
    (hnew : ∀ b, s.broadcasts b = none → eventsOf b es = []) (hs : s.step a = some (s', out)) :
    s'.Attended (es ++ out) := by
  intro b hslot hfailed
  rw [eventsOf_append, failures_append] at hfailed
  have hmoves := dispatchMoves_of_step hs
  cases hmoves with
  | create title rating gameId hm hb =>
      have hfresh : eventsOf b es = [] := by
        rw [← Option.some.inj hslot]
        exact hnew s.next (hinv.fresh s.next le_rfl)
      exact absurd (by rw [hfresh]; rfl) hfailed
  | advance i c w w' shown hb ha hw =>
      have hslot : s.broadcast = some b := hslot
      by_cases hold : failures (eventsOf b es) = []
      · -- the failure is that of the step, which posts a task for it
        rw [hold, List.nil_append] at hfailed
        have hib : i = b := by
          by_contra hne
          rw [eventsOf_map_of_ne hne] at hfailed
          exact hfailed rfl
        subst hib
        rw [eventsOf_map_self] at hfailed
        have hposted : s.newTasks i shown ≠ [] := by
          intro hnil
          rw [Dispatch.newTasks, List.mapIdx_eq_nil_iff] at hnil
          exact hfailed hnil
        obtain ⟨τ, hτ⟩ := List.exists_mem_of_ne_nil _ hposted
        exact ⟨τ, broadcast_of_mem_newTasks hτ, .inl (List.mem_append_right _ hτ)⟩
      · obtain ⟨τ, hτ, hwhere⟩ := h b hslot hold
        exact ⟨τ, hτ, hwhere.imp_left (List.mem_append_left _)⟩
  | finishEnd i w hm hb hw => cases hslot
  | finishTask i τ w hm hb hw => cases hslot
  | find τ rest ht hq hm hb =>
      have hslot : s.broadcast = some b := hslot
      rw [hb] at hslot
      exact ⟨τ, Option.some.inj hslot, .inr (.inl rfl)⟩
  | skip τ rest ht hq =>
      obtain ⟨τ', hτ, hwhere⟩ := h b hslot (by simpa [eventsOf, failures] using hfailed)
      refine ⟨τ', hτ, hwhere.imp_left fun hmem => ?_⟩
      rw [hq, List.mem_cons] at hmem
      refine hmem.resolve_left fun hfirst => ?_
      -- the task would have been found
      have hslot : s.broadcast = some b := hslot
      rw [← hτ, hfirst] at hslot
      simp only [Dispatch.step, ht, hq, hslot, if_true, Option.ite_none_right_eq_some,
        Option.some.injEq, Prod.mk.injEq] at hs
      have htask : TaskState.found τ = .idle := congrArg Dispatch.task hs.2.1
      cases htask
  | endTask τ i ht hm hb =>
      obtain ⟨τ', hτ, hwhere⟩ := h b hslot (by simpa [eventsOf, failures] using hfailed)
      refine ⟨τ', hτ, hwhere.imp_right fun hcase => .inr ?_⟩
      rcases hcase with hcase | hcase
      · rw [ht] at hcase
        rw [TaskState.found.inj hcase]
      · rw [ht] at hcase
        cases hcase
  | endNothing τ ht hm hb =>
      have hslot : s.broadcast = some b := hslot
      rw [hb] at hslot
      cases hslot
  | callTask τ ht =>
      obtain ⟨τ', hτ, hwhere⟩ := h b hslot (by simpa [eventsOf, failures] using hfailed)
      refine ⟨τ', hτ, .inl (hwhere.resolve_right fun hcase => ?_)⟩
      rcases hcase with hcase | hcase <;> rw [ht] at hcase <;> cases hcase
  | takeToEnd i hm hb => exact h b hslot (by simpa [eventsOf, failures] using hfailed)
  | finishStart i hm => exact h b hslot (by simpa [eventsOf, failures] using hfailed)
  | stay a => exact h b hslot (by simpa [eventsOf, failures] using hfailed)

/-- A task that has ended a broadcast has called its callback, or is about to. -/
def Dispatch.Reported (es : List DispatchEvent) (s : Dispatch) : Prop :=
  ∀ b τ, .ended b (.task τ) ∈ es → .failedCallback τ ∈ es ∨ s.task = .calling τ

/-- **Step lemma.** -/
theorem Dispatch.Reported.moves (h : s.Reported es) (hinv : DispatchInv s)
    (hmoves : DispatchMoves s a s' out) : s'.Reported (es ++ out) := by
  intro b τ hended
  rw [List.mem_append] at hended ⊢
  cases hmoves with
  | advance i c w w' shown hb ha hw =>
      rcases hended with hended | hended
      · exact (h b τ hended).imp_left .inl
      · simp at hended
  | finishTask i τ' w hm hb hw =>
      rcases hended with hended | hended
      · rcases h b τ hended with hcalled | hcalling
        · exact .inl (.inl hcalled)
        · rw [hinv.held i τ' hm] at hcalling
          cases hcalling
      · rw [List.mem_singleton, DispatchEvent.ended.injEq, Ender.task.injEq] at hended
        exact .inr (by rw [hended.2])
  | callTask τ' ht =>
      refine .inl ?_
      rcases hended with hended | hended
      · rcases h b τ hended with hcalled | hcalling
        · exact .inl hcalled
        · rw [ht] at hcalling
          rw [TaskState.calling.inj hcalling]
          exact .inr (List.mem_singleton_self _)
      · simp at hended
  | find τ' rest ht hq hm hb =>
      rcases hended with hended | hended
      · rcases h b τ hended with hcalled | hcalling
        · exact .inl (.inl hcalled)
        · rw [ht] at hcalling
          cases hcalling
      · cases hended
  | endTask τ' i ht hm hb =>
      rcases hended with hended | hended
      · rcases h b τ hended with hcalled | hcalling
        · exact .inl (.inl hcalled)
        · rw [ht] at hcalling
          cases hcalling
      · cases hended
  | endNothing τ' ht hm hb =>
      rcases hended with hended | hended
      · rcases h b τ hended with hcalled | hcalling
        · exact .inl (.inl hcalled)
        · rw [ht] at hcalling
          cases hcalling
      · cases hended
  | finishEnd i w hm hb hw =>
      rcases hended with hended | hended
      · exact (h b τ hended).imp_left .inl
      · simp at hended
  | _ => exact (h b τ (hended.resolve_right List.not_mem_nil)).imp_left .inl

/-- **Run lemma.** -/
theorem DispatchRuns.attended (h : DispatchRuns tr es s) :
    s.LetGo ∧ s.Attended es ∧ s.Reported es := by
  induction h with
  | refl =>
      exact ⟨fun _ _ hslot => (nomatch hslot), fun _ hslot => (nomatch hslot),
        fun _ _ hended => (nomatch hended)⟩
  | snoc hrun hs ih =>
      have hrun : DispatchRuns _ _ _ := hrun
      exact ⟨ih.1.step hrun.inv hs,
        ih.2.1.step hrun.inv (fun b => (hrun.projection b).1) hs,
        ih.2.2.moves hrun.inv (dispatchMoves_of_step hs)⟩

/-- Away from rest there is a step. -/
theorem DispatchRuns.exists_step (h : DispatchRuns tr es s) (hsound : s.Sound)
    (hrest : ¬ s.AtRest) :
    ∃ a s' out, DispatchAction.Internal s a ∧ s.step a = some (s', out) ∧ s'.Sound ∧
      s'.workLeft < s.workLeft := by
  have hjoin : ∀ b w, s.broadcasts b = some w → JoinInv w := by
    intro b w hb
    obtain ⟨title, rating, gameId, tr', es', hruns⟩ := h.exists_runs hb
    exact hruns.joinInv
  have hstate : ∀ b w, s.broadcasts b = some w → StateInv w := by
    intro b w hb
    obtain ⟨title, rating, gameId, tr', es', hruns⟩ := h.exists_runs hb
    exact hruns.stateInv
  rcases hm : s.broadcastMutex with _ | ⟨b⟩ | ⟨b, ender⟩
  · exact Dispatch.exists_step_of_task h.inv hsound hm hrest
  · exact Dispatch.exists_step_of_starting h.inv hsound hjoin hm
  · exact Dispatch.exists_step_of_ending h.inv hsound hstate hjoin h.attended.1 hm

theorem Dispatch.workLeft_le (s : Dispatch) : s.workLeft ≤ 4 * s.taskQueue.length + 82 := by
  have htask : s.task.workLeft ≤ 3 := by
    cases s.task <;> exact of_decide_eq_true rfl
  have hworld : ∀ w : World, w.workLeft ≤ 77 := by
    intro w
    have hstart : w.startCall.stepsLeft ≤ 2 := by
      cases w.startCall <;> exact of_decide_eq_true rfl
    have hthread : w.thread.stepsLeft ≤ 9 := w.thread.stepsLeft_le
    unfold World.workLeft
    split_ifs with hstop
    · omega
    · have hcall : w.stopCall.stepsLeft ≤ 2 := StopCall.stepsLeft_le hstop
      omega
  have hslot : s.slotWork ≤ 78 := by
    unfold Dispatch.slotWork
    cases s.broadcast with
    | none => exact Nat.zero_le 78
    | some b =>
        cases hb : s.broadcasts b with
        | none => simp [hb]
        | some w =>
            have hw := hworld w
            simp only [hb, Option.map_some, Option.getD_some]
            omega
  have hstart : s.startWork ≤ 1 := by
    unfold Dispatch.startWork
    split
    · exact le_rfl
    · exact Nat.zero_le 1
  rw [Dispatch.workLeft]
  omega

/-- The instance puts no broadcast into the slot by itself. -/
theorem DispatchMoves.slot_of_internal (h : DispatchMoves s a s' out)
    (ha : DispatchAction.Internal s a) {b : ℕ} (hslot : s'.broadcast = some b) :
    s.broadcast = some b := by
  cases h with
  | create title rating gameId hm hb => cases ha
  | finishEnd i w hm hb hw => cases hslot
  | finishTask i τ w hm hb hw => cases hslot
  | _ => exact hslot

/-- Steps of its own lead the instance to rest. -/
theorem DispatchRuns.exists_rest (h : DispatchRuns tr es s) (hsound : s.Sound) :
    ∃ tr' es' s', dispatchMachine.Run s tr' es' s' ∧ Machine.Meets DispatchAction.Internal tr' ∧
      s'.AtRest ∧ tr'.length ≤ s.workLeft := by
  refine Machine.exists_run_of_variant
    (I := fun s : Dispatch => (∃ tr es, DispatchRuns tr es s) ∧ s.Sound)
    (v := Dispatch.workLeft) ?_ ⟨⟨tr, es, h⟩, hsound⟩
  rintro t ⟨⟨tr, es, ht⟩, hsound⟩ hrest
  obtain ⟨a, t', out, ha, hs, hsound', hlt⟩ := ht.exists_step hsound hrest
  exact ⟨a, t', out, ha, hs, ⟨⟨_, _, ht.snoc hs⟩, hsound'⟩, hlt⟩

/-- **An instance comes to rest.**  Where no exception has ended the thread of the broadcast
in the slot, steps that the instance takes by itself lead to a state in which nothing that
has been begun is left to do, in a number bounded by the tasks that are queued.  A broadcast
that is then in the slot was there before and has reported no failure, and the callback of
each task that has ended a broadcast has been called. -/
theorem comes_to_rest (h : DispatchRuns tr es s) (hsound : s.Sound) :
    ∃ tr' es' s', dispatchMachine.Run s tr' es' s' ∧ Machine.Meets DispatchAction.Internal tr' ∧
      s'.AtRest ∧ tr'.length ≤ 4 * s.taskQueue.length + 82 ∧
      (∀ b, s'.broadcast = some b →
        s.broadcast = some b ∧ failures (eventsOf b (es ++ es')) = []) ∧
      ∀ b τ, .ended b (.task τ) ∈ es ++ es' → .failedCallback τ ∈ es ++ es' := by
  obtain ⟨tr', es', s', hrun, hmeets, hrest, hlen⟩ := h.exists_rest hsound
  have hall : DispatchRuns (tr ++ tr') (es ++ es') s' := Machine.Run.trans h hrun
  refine ⟨tr', es', s', hrun, hmeets, hrest, hlen.trans s.workLeft_le, fun b hslot => ⟨?_, ?_⟩,
    fun b τ hended => ?_⟩
  · have hkeep : ∀ b, s'.broadcast = some b → s.broadcast = some b :=
      (hrun.meets_of_invariant (I := fun t => ∀ b, t.broadcast = some b → s.broadcast = some b)
        (fun _ hb => hb)
        (fun _ _ _ _ hI ha hs b hb =>
          hI b ((dispatchMoves_of_step hs).slot_of_internal ha hb)) hmeets).2
    exact hkeep b hslot
  · by_contra hfailed
    obtain ⟨τ, -, hτ⟩ := hall.attended.2.1 b hslot hfailed
    simp [hrest.taskQueue, hrest.task] at hτ
  · refine (hall.attended.2.2 b τ hended).resolve_right fun hcalling => ?_
    rw [hrest.task] at hcalling
    cases hcalling

end

/-- The instance whose first broadcast has failed ends it by itself. -/
theorem comes_to_rest_offerFails :
    ∃ tr es s tr' es' s', DispatchRuns tr es s ∧
      tr.map Prod.snd = createActions 0 ++ offerFails 0 ∧ s.broadcast = some 0 ∧
      dispatchMachine.Run s tr' es' s' ∧ s'.AtRest ∧ s'.broadcast = none ∧
      tr'.length ≤ 86 := by
  obtain ⟨s, es, hexec, hslot, hlive, hqueue, hfailed⟩ : ∃ s es,
      dispatchMachine.exec {} (createActions 0 ++ offerFails 0) = some (s, es) ∧
      s.broadcast = some 0 ∧ (s.broadcasts 0).map World.thread = some .finished ∧
      s.taskQueue.length = 1 ∧ failures (eventsOf 0 es) = [.failure] :=
    ⟨_, _, rfl, rfl, rfl, rfl, rfl⟩
  have hsound : s.Sound := by
    intro b w hb hw hdead
    rw [hslot] at hb
    rw [← Option.some.inj hb] at hw
    rw [hw, Option.map_some, hdead] at hlive
    cases hlive
  obtain ⟨tr', es', s', hrun, -, hrest, hlen, hleft, -⟩ :=
    comes_to_rest (.of_exec hexec) hsound
  have hnone : s'.broadcast = none := by
    by_contra hsome
    obtain ⟨b, hb⟩ := Option.ne_none_iff_exists'.mp hsome
    obtain ⟨hb', hquiet⟩ := hleft b hb
    rw [hslot] at hb'
    rw [← Option.some.inj hb', eventsOf_append, failures_append, hfailed] at hquiet
    cases hquiet
  refine ⟨_, es, s, tr', es', s', .of_exec hexec, Machine.map_snd_trace hexec, hslot, hrun, hrest,
    hnone, ?_⟩
  rw [hqueue] at hlen
  exact hlen

end Caff
