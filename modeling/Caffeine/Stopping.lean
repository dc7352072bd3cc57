/-
# The end of a stopped broadcast

`stop` stores `Stopping` and joins the broadcast thread.  From then on every loop and every
transition of the thread finds the state changed, so there is a bound on the steps that it
still takes, whatever the outside answers and whatever else runs.  What it waits for outside
can always be answered, so the thread comes to its end unless an exception leaves its body,
and `stop` comes back.
-/
import Caffeine.BroadcastRegions

namespace Caff

/-! ## What is left to do -/

/-- The steps that are left to a stage, if the thread does not give up before. -/
def Stage.stepsLeft : Stage → ℕ
  | .setupSubscription => 6
  | .createVideoTrack => 5
  | .createPeerConnection => 4
  | .awaitOffer => 3
  | .setLocalDescription => 2
  | .createRemoteDescription => 6
  | .awaitCandidates => 5
  | .trickleCandidates => 4
  | .setRemoteDescription => 3
  | .addStatsObserver => 2
  | .awaitScreenshot => 8
  | .sendScreenshot => 7
  | .awaitSubscription => 6

/-- The steps that are left to the broadcast thread at most, once `Stopping` is stored. -/
def Thread.stepsLeft : Thread → ℕ
  | .notCreated | .finished | .aborted => 0
  | .stage p => p.stepsLeft
  | .requireStarting | .goStreaming | .releaseStatsObserver => 1
  | .requireStreaming | .stopBroadcast => 2
  | .startedCallback | .goLive _ | .afterLoop => 3
  | .startBroadcast _ | .loopTest _ _ => 4
  | .readTitle | .loopSleep _ _ => 5
  | .updateFeed _ => 6
  | .addFeed _ | .readFeed => 7
  | .readFeedInput | .storeQuality _ => 8
  | .heartbeat _ => 9

theorem Thread.stepsLeft_le (t : Thread) : t.stepsLeft ≤ 9 := by
  cases t with
  | stage p => cases p <;> decide
  | _ => exact of_decide_eq_true rfl

/-- The steps that are left to the call of `stop`. -/
def StopCall.stepsLeft : StopCall → ℕ
  | .notCalled => 3
  | .joining => 2
  | .joined => 1
  | .returned => 0

theorem StopCall.stepsLeft_le {c : StopCall} (h : c ≠ .notCalled) : c.stepsLeft ≤ 2 := by
  cases c with
  | notCalled => exact absurd rfl h
  | _ => exact of_decide_eq_true rfl

namespace World

/-- `stop` has stored `Stopping`. -/
structure Stopped (s : World) : Prop where
  stopCall : s.stopCall ≠ .notCalled
  stateInv : StateInv s
  joinInv : JoinInv s

variable {s s' : World} {a : Action} {out : List Event}

theorem Stopped.ne_starting (h : s.Stopped) : s.state ≠ .starting := by
  rcases h.stateInv.not_online h.stopCall with hst | hst <;> rw [hst] <;> decide

theorem Stopped.ne_streaming (h : s.Stopped) : s.state ≠ .streaming := by
  rcases h.stateInv.not_online h.stopCall with hst | hst <;> rw [hst] <;> decide

theorem Stopped.ne_live (h : s.Stopped) : s.state ≠ .live := by
  rcases h.stateInv.not_online h.stopCall with hst | hst <;> rw [hst] <;> decide

/-- The thread has been created if it ever is. -/
theorem Stopped.ne_awaitingEncoderInfo (h : s.Stopped) : s.startCall ≠ .awaitingEncoderInfo := by
  intro hc
  have hr := h.joinInv.reachable h.stopCall
  simp [World.reachable, hc] at hr

/-- A thread that has not died is joined unless it has been already. -/
theorem Stopped.canJoin (h : s.Stopped) (hjoining : s.stopCall ≠ .joining) : s.canJoin = true := by
  apply h.joinInv.joined
  cases hc : s.stopCall with
  | notCalled => exact absurd hc h.stopCall
  | joining => exact absurd hc hjoining
  | joined => exact .inl rfl
  | returned => exact .inr rfl

/-- **Step lemma.** -/
theorem Stopped.moves (h : s.Stopped) (hmoves : Moves s a s' out) : s'.Stopped := by
  refine ⟨?_, h.stateInv.moves hmoves, h.joinInv.moves hmoves⟩
  cases hmoves with
  | thread hthread =>
      rw [hthread.stopCall_eq]
      exact h.stopCall
  | other a ha hcore hvideo hout =>
      rw [hcore.stopCall]
      exact h.stopCall
  | storeStopping hc hr => exact absurd hc h.stopCall
  | join hc hj => exact StopCall.noConfusion
  | storeOffline hc => exact StopCall.noConfusion
  | _ => exact h.stopCall

end World

/-! ## The thread after `stop` -/

section

variable {s s' : World} {a : Action} {o : Outcome} {out : List Event}

theorem Stage.stepsLeft_next (p : Stage) : p.next.stepsLeft < p.stepsLeft := by
  cases p <;> decide

theorem Stage.stepsLeft_giveUp {p : Stage} {error : Result} {exit : Thread}
    (h : p.giveUp = some (error, exit)) : exit.stepsLeft < p.stepsLeft := by
  cases p <;> simp only [Stage.giveUp, Option.some.injEq, Prod.mk.injEq, reduceCtorEq] at h <;>
    rw [← h.2] <;> decide

/-- A stopped thread comes nearer to its end with each step. -/
theorem ThreadMoves.stepsLeft_lt (h : ThreadMoves s o s' out) (hs : s.Stopped) :
    s'.thread.stepsLeft < s.thread.stepsLeft := by
  cases h with
  | advance p ht hok =>
      rw [ht]
      exact p.stepsLeft_next
  | giveUp o p error exit ht ho hg =>
      rw [ht]
      exact Stage.stepsLeft_giveUp hg
  -- the transitions and the loop test find the state changed
  | enterFeed ht hstate => exact absurd hstate hs.ne_starting
  | goStreaming ht hstate => exact absurd hstate hs.ne_starting
  | enterHeartbeat ht hstate => exact absurd hstate hs.ne_streaming
  | goLive payload ht hstate => exact absurd hstate hs.ne_streaming
  | sleepOn interval failures ht hstate hi => exact absurd hstate hs.ne_live
  | beat interval failures ht hstate hi => exact absurd hstate hs.ne_live
  | abort hw =>
      revert hw
      cases ht : s.thread with
      | stage p => cases p <;> exact fun _ => of_decide_eq_true rfl
      | _ => simp [Thread.waits, Thread.stepsLeft]
  | _ => simp [*, Thread.stepsLeft, Stage.stepsLeft, World.request]

/-- The step is one of the broadcast thread. -/
def Action.ofThread : Action → Bool
  | .thread _ => true
  | _ => false

/-- Only the thread moves the thread. -/
theorem Moves.stepsLeft_le (h : Moves s a s' out) (hs : s.Stopped) :
    s'.thread.stepsLeft + (if a.ofThread then 1 else 0) ≤ s.thread.stepsLeft := by
  cases h with
  | thread hthread => exact hthread.stepsLeft_lt hs
  | createThread hc => exact absurd hc hs.ne_awaitingEncoderInfo
  | other a ha hcore hvideo hout =>
      have hof : a.ofThread = false := by
        cases a with
        | thread o => exact absurd rfl (ha o)
        | _ => rfl
      rw [hcore.thread, hof]
      exact le_rfl
  | _ => exact le_rfl

/-! ## What the thread waits for -/

/-- An outside that is out of reach answers so: no exception, and no heartbeat comes
through. -/
def Outcome.unanswered : Outcome → Bool
  | .raised | .heartbeat (some _) => false
  | _ => true

theorem Outcome.ne_raised (h : o.unanswered = true) : o ≠ .raised := by
  rintro rfl
  cases h

/-- A stage succeeds or gives up. -/
theorem exists_stageStep (p : Stage) :
    ∃ o s' out, o.unanswered = true ∧ s.stageStep p o = some (s', out) := by
  by_cases hok : p.canSucceed s = true
  · refine ⟨.success, (p.assign s).goto p.next, p.access s, rfl, ?_⟩
    show (if p.canSucceed s then _ else none) = _
    rw [if_pos hok]
  · -- the stages that only succeed are out
    obtain ⟨error, exit, hg, hfail⟩ :
        ∃ error exit, p.giveUp = some (error, exit) ∧ p.canFail s = true := by
      cases p with
      | awaitScreenshot =>
          exact ⟨_, _, rfl, decide_eq_true (by simpa [Stage.canSucceed] using hok)⟩
      | sendScreenshot => exact ⟨_, _, rfl, rfl⟩
      | awaitSubscription =>
          exact ⟨_, _, rfl, by simpa [Stage.canSucceed, Stage.canFail] using hok⟩
      | _ => exact absurd rfl hok
    refine ⟨.failure, s.goto exit,
      p.access s ++ [.failureReported .broadcastThread error], rfl, ?_⟩
    simp only [World.stageStep, hg, if_pos hfail]

/-- A thread that runs can go on, and without an exception or a heartbeat that comes
through. -/
theorem exists_threadStep (hr : s.thread.running = true) :
    ∃ o s' out, o.unanswered = true ∧ s.threadStep o = some (s', out) := by
  have hstep : ∀ o, o.unanswered = true → (s.threadStep o).isSome = true →
      ∃ o s' out, o.unanswered = true ∧ s.threadStep o = some (s', out) := by
    intro o ho hsome
    obtain ⟨⟨s', out⟩, h⟩ := Option.isSome_iff_exists.mp hsome
    exact ⟨o, s', out, ho, h⟩
  cases ht : s.thread with
  | notCreated | finished | aborted =>
      rw [ht] at hr
      cases hr
  | stage p =>
      obtain ⟨o, s', out, ho, h⟩ := exists_stageStep (s := s) p
      exact ⟨o, s', out, ho, by simpa only [World.threadStep, ht] using h⟩
  -- a request can be lost
  | addFeed x => exact hstep (.feed none) rfl (by simp [World.threadStep, ht])
  | startBroadcast x =>
      exact hstep (.start none) rfl (by simp [World.threadStep, ht])
  | heartbeat failures =>
      exact hstep (.heartbeat none) rfl (by simp [World.threadStep, ht])
  | updateFeed x => exact hstep .failure rfl (by simp [World.threadStep, ht])
  | stopBroadcast => exact hstep .failure rfl (by simp [World.threadStep, ht])
  | _ =>
      refine hstep .success rfl ?_
      simp only [World.threadStep, ht]
      first | rfl | (split <;> rfl)

/-- Only an exception ends the thread at once. -/
theorem ThreadMoves.goes_on (h : ThreadMoves s o s' out) (ho : o ≠ .raised) :
    s'.thread.running = true ∨ s'.thread = .finished := by
  cases h with
  | advance p ht hok => cases p <;> exact .inl rfl
  | giveUp o p error exit ht ho' hg =>
      cases p <;> simp only [Stage.giveUp, Option.some.injEq, Prod.mk.injEq, reduceCtorEq] at hg <;>
        rw [World.goto_thread, ← hg.2] <;> decide
  | abort hw => exact absurd rfl ho
  | _ => first | exact .inl rfl | exact .inr rfl

theorem ThreadMoves.ne_aborted (h : ThreadMoves s o s' out) (ho : o ≠ .raised) :
    s'.thread ≠ .aborted := by
  intro hdead
  rcases h.goes_on ho with hr | hfinished
  · rw [hdead] at hr
    cases hr
  · rw [hdead] at hfinished
    cases hfinished

/-! ## The call of `stop` -/

/-- The step is one of `stop`, or one of the thread that throws nothing out of its body. -/
def Action.EndsStop (_ : World) (a : Action) : Prop :=
  a = .stop ∨ ∃ o, o ≠ .raised ∧ a = .thread o

/-- Once the thread is through, `stop` goes on. -/
theorem World.Stopped.exists_stopStep (hs : s.Stopped) (hlive : s.thread ≠ .aborted)
    (hr : ¬ s.thread.running = true) (hnot : s.stopCall ≠ .returned) :
    ∃ s' out, s.stopStep = some (s', out) ∧ s'.thread = s.thread ∧ s'.startCall = s.startCall ∧
      s'.stopCall.stepsLeft < s.stopCall.stepsLeft ∧ (out = [.joined] ∨ out = [.stopReturned]) := by
  have hj : s.canJoin = true := by
    rw [World.canJoin, decide_eq_true_eq]
    cases ht : s.thread <;> simp_all [Thread.running]
  cases hc : s.stopCall with
  | notCalled => exact absurd hc hs.stopCall
  | joining =>
      refine ⟨{ s with stopCall := .joined }, [.joined], ?_, rfl, rfl, Nat.one_lt_two, .inl rfl⟩
      simp only [World.stopStep, hc, if_pos hj]
  | joined =>
      refine ⟨{ s with state := .offline, stopCall := .returned }, [.stopReturned], ?_, rfl, rfl,
        Nat.zero_lt_one, .inr rfl⟩
      simp only [World.stopStep, hc]
  | returned => exact absurd hc hnot

/-- **Progress.**  A stopped broadcast whose thread has not died comes nearer to the return
of `stop`. -/
theorem World.Stopped.exists_step (hs : s.Stopped) (hlive : s.thread ≠ .aborted)
    (hnot : s.stopCall ≠ .returned) :
    ∃ a s' out, Action.EndsStop s a ∧ s.step a = some (s', out) ∧ s'.thread ≠ .aborted ∧
      s'.thread.stepsLeft + s'.stopCall.stepsLeft < s.thread.stepsLeft + s.stopCall.stepsLeft := by
  by_cases hr : s.thread.running = true
  · obtain ⟨o, s', out, ho, h⟩ := exists_threadStep hr
    have hmoves := threadMoves_of_threadStep h
    have hlt := hmoves.stepsLeft_lt hs
    refine ⟨.thread o, s', out, .inr ⟨o, Outcome.ne_raised ho, rfl⟩, h,
      hmoves.ne_aborted (Outcome.ne_raised ho), ?_⟩
    rw [hmoves.stopCall_eq]
    omega
  · obtain ⟨s', out, h, hthread, -, hlt, -⟩ := hs.exists_stopStep hlive hr hnot
    refine ⟨.stop, s', out, .inl rfl, h, by rwa [hthread], ?_⟩
    rw [hthread]
    omega

end

section

variable {title gameId : Bytes} {rating : Rating} {s s' : World}
variable {tr₀ tr : List (World × Action)} {es₀ es : List Event}

theorem Runs.stopped (h : Runs title rating gameId tr₀ es₀ s) (hstop : s.stopCall ≠ .notCalled) :
    s.Stopped :=
  ⟨hstop, h.stateInv, h.joinInv⟩

/-- Steps of the thread and of `stop` lead to its return. -/
theorem World.Stopped.exists_run (hs : s.Stopped) (hlive : s.thread ≠ .aborted) :
    ∃ tr es s', broadcastMachine.Run s tr es s' ∧ Machine.Meets Action.EndsStop tr ∧
      s'.stopCall = .returned ∧ tr.length ≤ s.thread.stepsLeft + s.stopCall.stepsLeft := by
  refine Machine.exists_run_of_variant (I := fun s : World => s.Stopped ∧ s.thread ≠ .aborted)
    (v := fun s : World => s.thread.stepsLeft + s.stopCall.stepsLeft) ?_ ⟨hs, hlive⟩
  rintro s ⟨hs, hlive⟩ hnot
  obtain ⟨a, s', out, ha, hstep, hlive', hlt⟩ := hs.exists_step hlive hnot
  exact ⟨a, s', out, ha, hstep, ⟨hs.moves (moves_of_step hstep), hlive'⟩, hlt⟩

/-- A thread that has died stays dead, and `stop` does not come back. -/
theorem World.Stopped.joining_of_aborted (hs : s.Stopped) (hdead : s.thread = .aborted)
    (hrun : broadcastMachine.Run s tr es s') : s'.stopCall = .joining := by
  have hinv : s'.Stopped ∧ s'.thread = .aborted := by
    refine Machine.Run.invariant (I := fun s => s.Stopped ∧ s.thread = .aborted)
      ⟨hs, hdead⟩ ?_ hrun
    rintro s a s' out ⟨hs, hdead⟩ hstep
    have hmoves := moves_of_step hstep
    refine ⟨hs.moves hmoves, ?_⟩
    cases hmoves with
    | thread hthread =>
        have hrunning := hthread.running
        rw [hdead] at hrunning
        cases hrunning
    | createThread hc => exact absurd hc hs.ne_awaitingEncoderInfo
    | other a ha hcore hvideo hout => rw [hcore.thread, hdead]
    | _ => exact hdead
  by_contra hne
  have hcan := hinv.1.canJoin hne
  simp [World.canJoin, hinv.2] at hcan

/-- **`stop` comes back.**  In every run that goes on after `stop` has stored `Stopping` the
thread takes nine steps at most, and at each point, unless an exception has ended the
thread, eleven steps of the thread and of `stop` let `stop` return; then it does not. -/
theorem stop_returns (h : Runs title rating gameId tr₀ es₀ s) (hstop : s.stopCall ≠ .notCalled)
    (hrun : broadcastMachine.Run s tr es s') :
    tr.countP (fun p => p.2.ofThread) ≤ 9 ∧
      (s'.thread ≠ .aborted ↔ ∃ tr' es' s'', broadcastMachine.Run s' tr' es' s'' ∧
        Machine.Meets Action.EndsStop tr' ∧ s''.stopCall = .returned ∧ tr'.length ≤ 11) := by
  obtain ⟨hs', hle⟩ := Machine.Run.countP_add_le (C := fun _ _ => True) (I := World.Stopped)
    (v := fun s => s.thread.stepsLeft) (P := Action.ofThread) (h.stopped hstop)
    (fun _ _ _ _ hs _ hstep =>
      ⟨hs.moves (moves_of_step hstep), (moves_of_step hstep).stepsLeft_le hs⟩)
    hrun (fun _ _ => trivial)
  have hthread : s.thread.stepsLeft ≤ 9 := s.thread.stepsLeft_le
  refine ⟨by omega, fun hlive => ?_, ?_⟩
  · obtain ⟨tr', es', s'', hrun', hmeets, hreturned, hlen⟩ := hs'.exists_run hlive
    have hthread' : s'.thread.stepsLeft ≤ 9 := s'.thread.stepsLeft_le
    have hcall : s'.stopCall.stepsLeft ≤ 2 := StopCall.stepsLeft_le hs'.stopCall
    exact ⟨tr', es', s'', hrun', hmeets, hreturned, by omega⟩
  · rintro ⟨tr', es', s'', hrun', -, hreturned, -⟩ hdead
    rw [hs'.joining_of_aborted hdead hrun'] at hreturned
    cases hreturned

end

/-- The steps of a broadcast that is stopped while it waits for the answer to a heartbeat. -/
def stoppedInHeartbeatActions : List Action := liveActions ++ [.thread .success, .stop]

/-- The steps after these if the quality of the connection has turned poor, up to the end of
the thread. -/
def endAfterHeartbeatActions : List Action :=
  [.thread (.heartbeat (some .poor)), .thread .success, .thread .success, .serveThread] ++
    List.replicate 6 (.thread .success)

/-- What is evaluated of these steps. -/
def endAfterHeartbeatRun : Bool :=
  (broadcastMachine.exec (World.init [] .none []) stoppedInHeartbeatActions).any fun stopped =>
    stopped.1.stopCall ≠ .notCalled ∧
      (broadcastMachine.trace stopped.1 endAfterHeartbeatActions).countP
          (fun p => p.2.ofThread) = 9 ∧
        (broadcastMachine.exec stopped.1 endAfterHeartbeatActions).any fun ended =>
          ended.1.thread = .finished

/-- The thread takes all of the nine steps. -/
theorem stop_returns_endAfterHeartbeat :
    ∃ tr₀ es₀ s tr es s', Runs [] .none [] tr₀ es₀ s ∧
      tr₀.map Prod.snd = stoppedInHeartbeatActions ∧ broadcastMachine.Run s tr es s' ∧
      tr.countP (fun p => p.2.ofThread) = 9 ∧ s'.thread = .finished ∧
      ∃ tr' es' s'', broadcastMachine.Run s' tr' es' s'' ∧ s''.stopCall = .returned := by
  have hrun : endAfterHeartbeatRun = true := by decide +kernel
  obtain ⟨⟨s, es₀⟩, hexec₀, hlater⟩ := (Option.any_eq_true _ _).mp hrun
  obtain ⟨hstop, hcount, hlater⟩ := of_decide_eq_true hlater
  obtain ⟨⟨s', es⟩, hexec, hend⟩ := (Option.any_eq_true _ _).mp hlater
  have hthread : s'.thread = .finished := of_decide_eq_true hend
  have hlive : s'.thread ≠ .aborted := by
    rw [hthread]
    decide
  obtain ⟨tr', es', s'', hrun', -, hreturned, -⟩ :=
    (stop_returns (.of_exec hexec₀) hstop (.of_exec hexec)).2.mp hlive
  exact ⟨_, es₀, s, _, es, s', .of_exec hexec₀, Machine.map_snd_trace hexec₀, .of_exec hexec,
    hcount, hthread, tr', es', s'', hrun', hreturned⟩

end Caff
