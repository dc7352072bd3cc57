/-
# No silent end

The body of the broadcast thread and `startHeartbeat` have exits that report nothing:
the transition to `Streaming` or to `Live` finds another state than the thread left,
`startHeartbeat` finds the broadcast not `Streaming`, the loop test finds it not `Live`.
Only `stop` moves the state besides the thread and `start`.  So as long as `stop` has
not been called, the state is the one that belongs to the step of the thread, or a
failure has been reported.
-/
import Caffeine.BroadcastRegions

namespace Caff

/-- The state that belongs to a step of the thread, where nobody but `start` and the
thread has moved it.  The steps behind the heartbeat loop have none: the loop is left
for a failure, or because the state is not `Live`. -/
def World.ownState (s : World) : Option State :=
  match s.thread with
  | .notCreated => some (if s.startCall = .notCalled then .offline else .starting)
  | .stage p => some (if p.region = .starting then .starting else .streaming)
  | .requireStarting | .readFeedInput | .addFeed _ | .goStreaming => some .starting
  | .startedCallback | .requireStreaming | .readTitle | .startBroadcast _ | .goLive _ =>
      some .streaming
  | .loopTest _ _ | .heartbeat _ | .storeQuality _ | .readFeed | .updateFeed _ | .loopSleep _ _ =>
      some .live
  | .afterLoop | .stopBroadcast | .releaseStatsObserver | .finished => none
  | .aborted => some s.state

/-- The state is the one that belongs to the step of the thread. -/
def World.Undisturbed (s : World) : Prop := s.ownState = some s.state

/-- The broadcast thread has reported a failure. -/
def ThreadReported (es : List Event) : Prop :=
  ∃ error, .failureReported .broadcastThread error ∈ es

section

variable {s s' : World} {o : Outcome} {out : List Event} {a : Action}

theorem World.Undisturbed.state_eq {st : State} (h : s.Undisturbed)
    (hs : s.ownState = some st) : s.state = st := by
  unfold World.Undisturbed at h
  rw [hs] at h
  exact (Option.some.inj h).symm

/-- The thread goes on, in the same state, at a step that has the same state. -/
theorem World.Undisturbed.of_state {st : State} (h : s.Undisturbed) (hs : s.ownState = some st)
    (hs' : s'.ownState = some st) (hstate : s'.state = s.state) : s'.Undisturbed := by
  unfold World.Undisturbed
  rw [hs', hstate, h.state_eq hs]

/-- No step that is left by others than a failure lies behind the loop. -/
theorem World.Undisturbed.isSome (h : s.Undisturbed) : s.ownState ≠ none := by
  unfold World.Undisturbed at h
  rw [h]
  simp

theorem Stage.ownState_next (p : Stage) (hs : s.thread = .stage p) :
    ((p.assign s).goto p.next).ownState = s.ownState := by
  unfold World.ownState
  rw [hs]
  cases p <;> rfl

theorem threadReported_singleton (error : Result) :
    ThreadReported [.failureReported .broadcastThread error] :=
  ⟨error, List.mem_singleton_self _⟩

/-- **Step lemma for the thread.**  From the state that belongs to its step the thread
goes to a state that belongs to its next step, or it reports a failure. -/
theorem World.Undisturbed.threadMoves (h : s.Undisturbed) (hmoves : ThreadMoves s o s' out) :
    s'.Undisturbed ∨ ThreadReported out := by
  cases hmoves with
  | advance p hs hok =>
      left
      unfold World.Undisturbed
      rw [p.ownState_next hs, World.goto_state, p.assign_state]
      exact h
  | giveUp o p error exit hs ho hg =>
      right
      exact ⟨error, by simp⟩
  -- the reports of the rest of the body and of the loop
  | refuseFeed hs hstate => right; exact threadReported_singleton _
  | feedFailed x payload id error hs hpayload hid => right; exact threadReported_singleton _
  | updateFailed x hs => right; exact threadReported_singleton _
  | disconnect failures hs hf =>
      right
      exact ⟨.disconnected, by simp⟩
  -- the transitions
  | goStreaming hs hstate => left; rfl
  | goLive payload hs hstate => left; rfl
  -- the silent exits find another state than the one that belongs to the step
  | missStreaming hs hstate =>
      exact absurd (h.state_eq (by simp [World.ownState, hs])) hstate
  | refuseHeartbeat hs hstate =>
      exact absurd (h.state_eq (by simp [World.ownState, hs])) hstate
  | missLive payload hs hstate =>
      exact absurd (h.state_eq (by simp [World.ownState, hs])) hstate
  | leaveLoop interval failures hs hstate =>
      exact absurd (h.state_eq (by simp [World.ownState, hs])) hstate
  -- and nothing behind the loop is reached without a report
  | stopAfterLoop hs hstate => exact absurd (by simp [World.ownState, hs]) h.isSome
  | endAfterLoop hs hstate => exact absurd (by simp [World.ownState, hs]) h.isSome
  | stopAnswered o hs => exact absurd (by simp [World.ownState, hs]) h.isSome
  | release hs => exact absurd (by simp [World.ownState, hs]) h.isSome
  | abort hs => left; rfl
  -- the rest goes on in the same state
  | feedAdded x id url hs hserved =>
      left
      exact h.of_state (by simp only [World.ownState, hs]; rfl) rfl rfl
  | enterHeartbeat hs hstate =>
      left
      exact h.of_state (by simp only [World.ownState, hs]; rfl) rfl rfl
  | _ =>
      left
      exact h.of_state (by simp only [World.ownState, *]) rfl rfl

/-- What belongs to the start, the thread and the state is kept by the rest. -/
theorem SameCore.undisturbed (hcore : SameCore s s') (h : s.Undisturbed) : s'.Undisturbed := by
  unfold World.Undisturbed World.ownState at h ⊢
  rw [hcore.thread, hcore.startCall, hcore.state]
  exact h

/-- **Step lemma.** -/
theorem World.Undisturbed.moves (h : s.Undisturbed)
    (hcreated : s.thread ≠ .notCreated → s.startCall = .returned) (hmoves : Moves s a s' out)
    (hstop : s'.stopCall = .notCalled) : s'.Undisturbed ∨ ThreadReported out := by
  have hnot : s.startCall ≠ .returned → s.thread = .notCreated := by
    intro hc
    exact not_imp_comm.mp hcreated hc
  cases hmoves with
  | thread hthread => exact h.threadMoves hthread
  | start hc =>
      left
      have ht := hnot (by rw [hc]; decide)
      have hstate : s.state = .offline := h.state_eq (by simp [World.ownState, ht, hc])
      simp [World.Undisturbed, World.ownState, ht, hstate]
  | createThread hc =>
      left
      have ht := hnot (by rw [hc]; decide)
      have hstate : s.state = .starting := h.state_eq (by simp [World.ownState, ht, hc])
      simp [World.Undisturbed, World.ownState, hstate, Stage.region]
  | raise hc =>
      left
      have ht := hnot (by rw [hc]; decide)
      have hstate : s.state = .starting := h.state_eq (by simp [World.ownState, ht, hc])
      simp [World.Undisturbed, World.ownState, ht, hstate]
  | other a ha hcore hvideo hout =>
      left
      exact hcore.undisturbed h
  | storeStopping hc hr => cases hstop
  | join hc hj => cases hstop
  | storeOffline hc => cases hstop

end

/-! ## Every run -/

section

variable {title gameId : Bytes} {rating : Rating} {tr : List (World × Action)} {es : List Event}
  {s : World}

/-- The call of `stop` is never taken back. -/
theorem Moves.stopCall_of_notCalled {s' : World} {a : Action} {out : List Event}
    (h : Moves s a s' out) (hstop : s'.stopCall = .notCalled) : s.stopCall = .notCalled := by
  cases h with
  | thread hthread => rw [← hthread.stopCall_eq, hstop]
  | other a ha hcore hvideo hout => rw [← hcore.stopCall, hstop]
  | storeStopping hc hr => cases hstop
  | join hc hj => cases hstop
  | storeOffline hc => cases hstop
  | _ => exact hstop

/-- **Run lemma.** -/
theorem Runs.undisturbed (h : Runs title rating gameId tr es s) :
    s.stopCall = .notCalled → s.Undisturbed ∨ ThreadReported es := by
  refine (Machine.Run.induction_on_trace (I := fun _ es s =>
    (s.thread ≠ .notCreated → s.startCall = .returned) ∧
      (s.stopCall = .notCalled → s.Undisturbed ∨ ThreadReported es)) ?_ ?_ h).2
  · constructor
    · intro hne
      exact absurd rfl hne
    · intro _
      left
      rfl
  · rintro tr es s a s' out ⟨hcreated, ih⟩ hs
    have hmoves := moves_of_step hs
    constructor
    · exact Moves.startCall_of_thread hcreated hmoves
    · intro hstop
      rcases ih (hmoves.stopCall_of_notCalled hstop) with hund | ⟨error, he⟩
      · rcases hund.moves hcreated hmoves hstop with hund' | ⟨error, he⟩
        · left
          exact hund'
        · right
          exact ⟨error, List.mem_append_right _ he⟩
      · right
        exact ⟨error, List.mem_append_left _ he⟩

/-- **No silent end.**  Where the body of the broadcast thread has finished and `stop` has
not been called, the thread has reported a failure through `failedCallback`. -/
theorem failureReported_of_finished (h : Runs title rating gameId tr es s)
    (hfinished : s.thread = .finished) (hstop : s.stopCall = .notCalled) :
    ∃ error, .failureReported .broadcastThread error ∈ es := by
  rcases h.undisturbed hstop with hund | hreported
  · exact absurd (by simp [World.ownState, hfinished]) hund.isSome
  · exact hreported

end

/-- A broadcast whose offer does not come in time. -/
theorem failureReported_of_finished_awaitOffer :
    ∃ tr es s, Runs [] .none [] tr es s ∧ tr.map Prod.snd =
        [.start, .encoderInfo false] ++ List.replicate 3 (.thread .success) ++
          [.thread .failure] ∧
      s.thread = .finished ∧ s.stopCall = .notCalled ∧
      ∃ error, .failureReported .broadcastThread error ∈ es := by
  obtain ⟨tr, es, s, hrun, htr, hs, hstop⟩ : ∃ tr es s, Runs [] .none [] tr es s ∧
      tr.map Prod.snd = [.start, .encoderInfo false] ++ List.replicate 3 (.thread .success) ++
        [.thread .failure] ∧
      s.thread = .finished ∧ s.stopCall = .notCalled :=
    exists_runs_of_exec (P := fun s _ => s.thread = .finished ∧ s.stopCall = .notCalled)
      ⟨_, _, rfl, rfl, rfl⟩
  exact ⟨tr, es, s, hrun, htr, hs, hstop, failureReported_of_finished hrun hs hstop⟩

end Caff
