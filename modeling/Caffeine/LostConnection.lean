/-
# A lost connection

Each wait of the broadcast thread is bounded, and so is the number of heartbeats that may
fail in a row.  So there is a bound on the steps that the thread takes while no heartbeat
comes through, wherever it is: a thread that goes on for longer has heard of its server.  A
thread that was live and comes to its end so reports that it is disconnected, unless `stop`
has been called.
-/
import Caffeine.Stopping
import Caffeine.NoSilentEnd
import Caffeine.Heartbeats

namespace Caff

/-! ## The steps that are left without a heartbeat -/

/-- The sleeps up to the next heartbeat. -/
def sleepsLeft (interval : ℕ) : ℕ := (heartbeatInterval - 1 - interval) / checkInterval

/-- The steps from the loop test that follows a failed heartbeat to the next one, and this. -/
def lostPeriod : ℕ := 2 * sleepsLeft 0 + 3

/-- The steps from a heartbeat on. -/
def beatsLeft (failures : ℕ) : ℕ := 4 + lostPeriod * (maxFailures - failures)

/-- The steps from a loop test on. -/
def testsLeft (interval failures : ℕ) : ℕ := beatsLeft failures + 1 + 2 * sleepsLeft interval

/-- The steps from the transition to `Live` on. -/
def liveLeft : ℕ := testsLeft heartbeatInterval 0 + 1

def Stage.lostLeft : Stage → ℕ
  | .setupSubscription => liveLeft + 21
  | .createVideoTrack => liveLeft + 20
  | .createPeerConnection => liveLeft + 19
  | .awaitOffer => liveLeft + 18
  | .setLocalDescription => liveLeft + 17
  | .createRemoteDescription => liveLeft + 13
  | .awaitCandidates => liveLeft + 12
  | .trickleCandidates => liveLeft + 11
  | .setRemoteDescription => liveLeft + 10
  | .addStatsObserver => liveLeft + 9
  | .awaitScreenshot => liveLeft + 5
  | .sendScreenshot => liveLeft + 4
  | .awaitSubscription => liveLeft + 3

/-- The steps of the broadcast thread that are left if no heartbeat comes through. -/
def Thread.lostLeft : Thread → ℕ
  | .notCreated => Stage.setupSubscription.lostLeft
  | .stage p => p.lostLeft
  | .requireStarting => liveLeft + 16
  | .readFeedInput => liveLeft + 15
  | .addFeed _ => liveLeft + 14
  | .goStreaming => liveLeft + 8
  | .startedCallback => liveLeft + 7
  | .requireStreaming => liveLeft + 6
  | .readTitle => liveLeft + 2
  | .startBroadcast _ => liveLeft + 1
  | .goLive _ => liveLeft
  | .loopTest interval failures => testsLeft interval failures
  | .heartbeat failures => beatsLeft failures
  -- after a heartbeat that has come through
  | .storeQuality _ => testsLeft 0 0 + 4
  | .readFeed => testsLeft 0 0 + 3
  | .updateFeed _ => testsLeft 0 0 + 2
  | .loopSleep interval failures => testsLeft interval failures + 1
  | .afterLoop => 3
  | .stopBroadcast => 2
  | .releaseStatsObserver => 1
  | .finished | .aborted => 0

theorem sleepsLeft_add {interval : ℕ} (h : interval + checkInterval < heartbeatInterval) :
    sleepsLeft (interval + checkInterval) + 1 = sleepsLeft interval := by
  simp only [sleepsLeft, checkInterval, heartbeatInterval] at *
  omega

theorem beatsLeft_succ {failures : ℕ} (h : ¬ failures + 1 > maxFailures) :
    testsLeft 0 (failures + 1) + 1 < beatsLeft failures := by
  have hrounds : maxFailures - failures = maxFailures - (failures + 1) + 1 := by omega
  rw [testsLeft, beatsLeft, beatsLeft, hrounds, Nat.mul_succ, lostPeriod]
  omega

theorem Thread.lostLeft_le (t : Thread) : t.lostLeft ≤ 612 := by
  have hbeats : ∀ failures, beatsLeft failures ≤ 509 := by
    intro failures
    have hrounds : lostPeriod * (maxFailures - failures) ≤ lostPeriod * maxFailures :=
      Nat.mul_le_mul_left _ (Nat.sub_le _ _)
    have hall : lostPeriod * maxFailures = 505 := rfl
    rw [beatsLeft]
    omega
  have htests : ∀ interval failures, testsLeft interval failures ≤ 608 := by
    intro interval failures
    have hsleeps : sleepsLeft interval ≤ 49 := by
      simp only [sleepsLeft, checkInterval, heartbeatInterval]
      omega
    have hbeat := hbeats failures
    rw [testsLeft]
    omega
  cases t with
  | stage p => cases p <;> exact of_decide_eq_true rfl
  | loopTest interval failures => exact (htests interval failures).trans (by decide)
  | loopSleep interval failures =>
      exact (Nat.succ_le_succ (htests interval failures)).trans (by decide)
  | heartbeat failures => exact (hbeats failures).trans (by decide)
  | _ => exact of_decide_eq_true rfl

section

variable {s s' : World} {a : Action} {o : Outcome} {out : List Event}

theorem Stage.lostLeft_next (p : Stage) : p.next.lostLeft < p.lostLeft := by
  cases p <;> decide

theorem Stage.lostLeft_giveUp {p : Stage} {error : Result} {exit : Thread}
    (h : p.giveUp = some (error, exit)) : exit.lostLeft < p.lostLeft := by
  cases p <;> simp only [Stage.giveUp, Option.some.injEq, Prod.mk.injEq, reduceCtorEq] at h <;>
    rw [← h.2] <;> decide

/-- **Step lemma.**  Each step of the thread counts, unless a heartbeat has come through. -/
theorem ThreadMoves.lostLeft_lt (h : ThreadMoves s o s' out)
    (hlost : ∀ quality, o ≠ .heartbeat (some quality)) :
    s'.thread.lostLeft < s.thread.lostLeft := by
  cases h with
  | advance p ht hok =>
      rw [ht]
      exact p.lostLeft_next
  | giveUp o p error exit ht ho hg =>
      rw [ht]
      exact Stage.lostLeft_giveUp hg
  | startAnswered x payload ht hserved =>
      rw [ht]
      exact Nat.lt_succ_self liveLeft
  | goLive payload ht hstate =>
      rw [ht]
      exact Nat.lt_succ_self _
  | missLive payload ht hstate =>
      rw [ht]
      exact of_decide_eq_true rfl
  | sleepOn interval failures ht hstate hi =>
      have hsleeps := sleepsLeft_add hi
      rw [ht]
      show testsLeft (interval + checkInterval) failures + 1 < testsLeft interval failures
      rw [testsLeft, testsLeft]
      omega
  | beat interval failures ht hstate hi =>
      rw [ht]
      show beatsLeft failures < testsLeft interval failures
      rw [testsLeft]
      omega
  | leaveLoop interval failures ht hstate =>
      rw [ht]
      show 3 < testsLeft interval failures
      rw [testsLeft, beatsLeft]
      omega
  | beatAnswered failures quality ht => exact absurd rfl (hlost quality)
  | beatFailed failures ht hf =>
      rw [ht]
      exact beatsLeft_succ hf
  | disconnect failures ht hf =>
      rw [ht]
      show 3 < beatsLeft failures
      rw [beatsLeft]
      omega
  | wake interval failures ht =>
      rw [ht]
      exact Nat.lt_succ_self _
  | abort hw =>
      revert hw
      cases ht : s.thread with
      | stage p => cases p <;> exact fun _ => of_decide_eq_true rfl
      | heartbeat failures =>
          intro _
          show 0 < beatsLeft failures
          rw [beatsLeft]
          omega
      | addFeed x | startBroadcast x | updateFeed x | stopBroadcast =>
          exact fun _ => of_decide_eq_true rfl
      | _ => exact fun hw => (nomatch hw)
  | _ => simp [*, Thread.lostLeft, Stage.lostLeft, World.request]

/-- Only the thread moves the thread, once it has been created. -/
theorem Moves.lostLeft_le (h : Moves s a s' out)
    (hcreated : s.thread ≠ .notCreated → s.startCall = .returned)
    (hlost : ∀ quality, a ≠ .thread (.heartbeat (some quality))) :
    s'.thread.lostLeft + (if a.ofThread then 1 else 0) ≤ s.thread.lostLeft := by
  cases h with
  | thread hthread =>
      exact hthread.lostLeft_lt fun quality hq => hlost quality (congrArg Action.thread hq)
  | createThread hc =>
      have hnot : s.thread = .notCreated := by
        by_contra hne
        rw [hcreated hne] at hc
        cases hc
      rw [hnot]
      exact le_rfl
  | other a ha hcore hvideo hout =>
      have hof : a.ofThread = false := by
        cases a with
        | thread o => exact absurd rfl (ha o)
        | _ => rfl
      rw [hcore.thread, hof]
      exact le_rfl
  | _ => exact le_rfl

/-- The thread takes a step, and nothing comes through. -/
def Action.Lost (_ : World) (a : Action) : Prop := ∃ o, o.unanswered = true ∧ a = .thread o

/-- A thread that runs comes to its end so. -/
theorem exists_lostRun (hr : s.thread.running = true) :
    ∃ tr es s', broadcastMachine.Run s tr es s' ∧ Machine.Meets Action.Lost tr ∧
      s'.thread = .finished ∧ tr.length ≤ s.thread.lostLeft := by
  refine Machine.exists_run_of_variant
    (I := fun s : World => s.thread.running = true ∨ s.thread = .finished)
    (v := fun s : World => s.thread.lostLeft) ?_ (.inl hr)
  rintro s hs hgo
  obtain ⟨o, s', out, ho, h⟩ := exists_threadStep (hs.resolve_right hgo)
  have hmoves := threadMoves_of_threadStep h
  refine ⟨.thread o, s', out, ⟨o, ho, rfl⟩, h, hmoves.goes_on (Outcome.ne_raised ho), ?_⟩
  refine hmoves.lostLeft_lt fun quality hq => ?_
  rw [hq] at ho
  cases ho

end

/-! ## The end of a live broadcast -/

/-- The thread is in the loop, and no answer to a heartbeat is being worked on. -/
def Thread.beats : Thread → Bool
  | .loopTest _ _ | .heartbeat _ | .loopSleep _ _ => true
  | _ => false

/-- The thread has left the loop. -/
def Thread.pastLoop : Thread → Bool
  | .afterLoop | .stopBroadcast | .releaseStatsObserver | .finished => true
  | _ => false

/-- A broadcast that was live and hears of its server no more. -/
inductive LostPhase (es : List Event) (s : World) : Prop
  | beats (ht : s.thread.beats = true) (hlive : s.stopCall = .notCalled → s.state = .live)
  | past (ht : s.thread.pastLoop = true)
      (hwhy : s.stopCall = .notCalled → disconnectedReport ∈ es)
  | dead (ht : s.thread = .aborted)

section

variable {s s' : World} {a : Action} {o : Outcome} {out es : List Event}

theorem LostPhase.threadMoves (h : LostPhase es s) (hmoves : ThreadMoves s o s' out)
    (hlost : ∀ quality, o ≠ .heartbeat (some quality)) : LostPhase (es ++ out) s' := by
  have hstop := hmoves.stopCall_eq
  cases h with
  | dead ht =>
      have hr := hmoves.running
      rw [ht] at hr
      cases hr
  | past ht hwhy =>
      have hwhy' : s'.stopCall = .notCalled → disconnectedReport ∈ es ++ out := fun hc =>
        List.mem_append_left _ (hwhy (hstop ▸ hc))
      cases hmoves with
      | stopAfterLoop ht' hstate => exact .past rfl hwhy'
      | endAfterLoop ht' hstate => exact .past rfl hwhy'
      | stopAnswered o ht' => exact .past rfl hwhy'
      | release ht' => exact .past rfl hwhy'
      | abort hw => exact .dead rfl
      | advance p ht' hok => rw [ht'] at ht; cases ht
      | giveUp o p error exit ht' ho hg => rw [ht'] at ht; cases ht
      | _ => simp_all [Thread.pastLoop]
  | beats ht hlive =>
      cases hmoves with
      | sleepOn interval failures ht' hstate hi => exact .beats rfl fun _ => hstate
      | beat interval failures ht' hstate hi => exact .beats rfl fun _ => hstate
      | leaveLoop interval failures ht' hstate =>
          exact .past rfl fun hc => absurd (hlive hc) hstate
      | beatAnswered failures quality ht' => exact absurd rfl (hlost quality)
      | beatFailed failures ht' hf => exact .beats rfl hlive
      | disconnect failures ht' hf =>
          exact .past rfl fun _ => by simp [disconnectedReport]
      | wake interval failures ht' => exact .beats rfl hlive
      | abort hw => exact .dead rfl
      | advance p ht' hok => rw [ht'] at ht; cases ht
      | giveUp o p error exit ht' ho hg => rw [ht'] at ht; cases ht
      | _ => simp_all [Thread.beats]

/-- **Step lemma.** -/
theorem LostPhase.moves (h : LostPhase es s) (hmoves : Moves s a s' out)
    (hcreated : s.thread ≠ .notCreated → s.startCall = .returned)
    (hlost : ∀ quality, a ≠ .thread (.heartbeat (some quality))) : LostPhase (es ++ out) s' := by
  have hreturned : s.startCall = .returned := by
    apply hcreated
    intro hne
    cases h with
    | dead ht => rw [ht] at hne; cases hne
    | past ht hwhy => rw [hne] at ht; cases ht
    | beats ht hlive => rw [hne] at ht; cases ht
  have hkeep : s'.thread = s.thread → (s'.stopCall = .notCalled → s'.state = s.state) →
      LostPhase (es ++ out) s' := by
    intro hthread hstate
    have hnot := hmoves.stopCall_of_notCalled
    cases h with
    | dead ht => exact .dead (by rw [hthread, ht])
    | past ht hwhy =>
        exact .past (by rw [hthread, ht]) fun hc => List.mem_append_left _ (hwhy (hnot hc))
    | beats ht hlive =>
        exact .beats (by rw [hthread, ht]) fun hc => by rw [hstate hc, hlive (hnot hc)]
  cases hmoves with
  | thread hthread =>
      exact h.threadMoves hthread fun quality hq => hlost quality (congrArg Action.thread hq)
  | other a ha hcore hvideo hout => exact hkeep hcore.thread fun _ => hcore.state
  | start hc => rw [hreturned] at hc; cases hc
  | createThread hc => rw [hreturned] at hc; cases hc
  | raise hc => rw [hreturned] at hc; cases hc
  | storeStopping hc hr => exact hkeep rfl fun hc => (nomatch hc)
  | join hc hj => exact hkeep rfl fun hc => (nomatch hc)
  | storeOffline hc => exact hkeep rfl fun hc => (nomatch hc)

end

/-! ## Every run -/

/-- The step is not the end of a heartbeat that comes through. -/
def Action.Unheard (_ : World) (a : Action) : Prop :=
  ∀ quality, a ≠ .thread (.heartbeat (some quality))

section

variable {title gameId : Bytes} {rating : Rating} {s s' : World}
variable {tr₀ tr : List (World × Action)} {es₀ es : List Event}

theorem lostPhase_of_run (hcreated : s.thread ≠ .notCreated → s.startCall = .returned)
    (ht : s.thread.beats = true) (hlive : s.state = .live)
    (hrun : broadcastMachine.Run s tr es s') (hlost : Machine.Meets Action.Unheard tr) :
    (s'.thread ≠ .notCreated → s'.startCall = .returned) ∧ LostPhase es s' := by
  induction hrun with
  | refl => exact ⟨hcreated, .beats ht fun _ => hlive⟩
  | snoc hrun hs ih =>
      obtain ⟨hbefore, hlast⟩ := Machine.meets_snoc.mp hlost
      obtain ⟨hcreated', hphase⟩ := ih hbefore
      have hmoves := moves_of_step hs
      exact ⟨Moves.startCall_of_thread hcreated' hmoves, hphase.moves hmoves hcreated' hlast⟩

/-- **A lost connection.**  While no heartbeat comes through, the broadcast thread takes 612
steps at most, wherever it is and whatever else runs; and a thread that runs can always come
to its end so.  If it was live in its loop and has finished, and `stop` has not been called,
it has reported that the broadcast is disconnected. -/
theorem lost_connection (h : Runs title rating gameId tr₀ es₀ s)
    (hrun : broadcastMachine.Run s tr es s') (hlost : Machine.Meets Action.Unheard tr) :
    tr.countP (fun p => p.2.ofThread) ≤ 612 ∧
      (s'.thread.running = true → ∃ tr' es' s'', broadcastMachine.Run s' tr' es' s'' ∧
        Machine.Meets Action.Lost tr' ∧ s''.thread = .finished ∧ tr'.length ≤ 612) ∧
      (s.thread.beats = true → s.state = .live → s'.thread = .finished →
        s'.stopCall = .notCalled → disconnectedReport ∈ es) := by
  have hcreated : s.thread ≠ .notCreated → s.startCall = .returned := h.startCall_of_thread
  refine ⟨?_, fun hr => ?_, fun ht hlive hfinished hstop => ?_⟩
  · have hall := Machine.Run.countP_add_le (C := Action.Unheard)
      (I := fun s => s.thread ≠ .notCreated → s.startCall = .returned)
      (v := fun s => s.thread.lostLeft) (P := Action.ofThread) hcreated
      (fun _ _ _ _ hcreated ha hs => ⟨Moves.startCall_of_thread hcreated (moves_of_step hs),
        (moves_of_step hs).lostLeft_le hcreated ha⟩) hrun hlost
    have hle : s.thread.lostLeft ≤ 612 := s.thread.lostLeft_le
    omega
  · obtain ⟨tr', es', s'', hrun', hmeets, hend, hlen⟩ := exists_lostRun hr
    exact ⟨tr', es', s'', hrun', hmeets, hend, hlen.trans s'.thread.lostLeft_le⟩
  · cases (lostPhase_of_run hcreated ht hlive hrun hlost).2 with
    | beats ht' hlive' => rw [hfinished] at ht'; cases ht'
    | past ht' hwhy => exact hwhy hstop
    | dead ht' => rw [hfinished] at ht'; cases ht'

end

/-- Six heartbeats fail, and the thread comes to its end. -/
def lostActions : List Action :=
  [.thread .success, .thread (.heartbeat none)] ++
    (List.replicate 5 (List.replicate 100 (.thread .success) ++
      [.thread (.heartbeat none)])).flatten ++ List.replicate 2 (.thread .success)

/-- What is evaluated of the broadcast that goes live and then takes these steps. -/
def lostRun : Bool :=
  (broadcastMachine.exec (World.init [] .none []) liveActions).any fun live =>
    live.1.thread.beats ∧ live.1.state = .live ∧
      (broadcastMachine.exec live.1 lostActions).any fun later =>
        later.1.thread = .finished ∧ later.1.stopCall = .notCalled

/-- The broadcast that has gone live tells that it is disconnected, after 509 steps. -/
theorem lost_connection_sixFailures :
    ∃ tr₀ es₀ s tr es s', Runs [] .none [] tr₀ es₀ s ∧ tr₀.map Prod.snd = liveActions ∧
      broadcastMachine.Run s tr es s' ∧ tr.map Prod.snd = lostActions ∧
      tr.countP (fun p => p.2.ofThread) ≤ 612 ∧ s'.thread = .finished ∧
      disconnectedReport ∈ es := by
  have hlostRun : lostRun = true := by decide +kernel
  obtain ⟨⟨s, es₀⟩, hexec₀, hlater⟩ := (Option.any_eq_true _ _).mp hlostRun
  obtain ⟨hbeats, hlive, hlater⟩ := of_decide_eq_true hlater
  obtain ⟨⟨s', es⟩, hexec, hend⟩ := (Option.any_eq_true _ _).mp hlater
  obtain ⟨hthread, hstop⟩ := of_decide_eq_true hend
  have hinputs := Machine.map_snd_trace hexec
  have hlost : Machine.Meets Action.Unheard (broadcastMachine.trace s lostActions) := by
    intro p hp quality
    have hmem : p.2 ∈ lostActions := by
      rw [← hinputs]
      exact List.mem_map_of_mem hp
    rintro heq
    rw [heq] at hmem
    revert hmem
    cases quality <;> decide +kernel
  obtain ⟨hcount, -, hreport⟩ :=
    lost_connection (.of_exec hexec₀) (.of_exec hexec) hlost
  exact ⟨_, es₀, s, _, es, s', .of_exec hexec₀, Machine.map_snd_trace hexec₀, .of_exec hexec,
    hinputs, hcount, hthread, hreport hbeats hlive hthread hstop⟩

end Caff
