/-
# The regions of the broadcast thread

The body of the broadcast thread is divided into six regions that it passes in
order: up to the call of `startedCallback`, up to the answer to `StartBroadcast`,
the transition to `Live`, the heartbeat loop, the `StopBroadcast` mutation, and
the end.  `RegionMoves` is what a step of the thread is between regions; histories
of the thread are followed at this level, by `Runs.thread_induction`.
-/
import Caffeine.BroadcastState

namespace Caff

open Publication (Stamped)

/-! ## Regions -/

inductive Region
  | starting
  | streaming
  | goingLive
  | looping
  | stopping
  | ended
  deriving DecidableEq, Repr

def Stage.region : Stage → Region
  | .awaitScreenshot | .sendScreenshot | .awaitSubscription => .streaming
  | _ => .starting

def Thread.region : Thread → Region
  | .notCreated | .requireStarting | .readFeedInput | .addFeed _ | .goStreaming
  | .startedCallback => .starting
  | .stage p => p.region
  | .requireStreaming | .readTitle | .startBroadcast _ => .streaming
  | .goLive _ => .goingLive
  | .loopTest _ _ | .heartbeat _ | .storeQuality _ | .readFeed | .updateFeed _ | .loopSleep _ _
  | .afterLoop => .looping
  | .stopBroadcast => .stopping
  | .releaseStatsObserver | .finished | .aborted => .ended

/-- A failure reported by the broadcast thread. -/
def Event.isThreadFailure : Event → Bool
  | .failureReported .broadcastThread _ => true
  | _ => false

/-- The ways the thread can go on, seen from the regions. -/
inductive RegionMoves (s : World) (o : Outcome) (s' : World) (out : List Event) : Prop
  | starting (h : s.thread.region = .starting) (h' : s'.thread.region = .starting)
      (hout : out = [])
  | started (h : s.thread.region = .starting) (h' : s'.thread.region = .streaming)
      (hout : out = [.startedCallback])
  | startFailed (h : s.thread.region = .starting) (h' : s'.thread.region = .ended)
      (hout : ∀ e ∈ out, e.isThreadFailure = true)
  | streaming (h : s.thread.region = .streaming) (h' : s'.thread.region = .streaming)
      (ho : o = .success) (hout : ∀ e ∈ out, e = .badBroadcastIdAccess)
  | answered (x : Stamped Bytes) (payload : Option StartPayload)
      (h : s.thread = .startBroadcast x) (ho : o = .start payload)
      (h' : s'.thread = .goLive payload) (hout : out = (s.startAnswered payload).2)
  | streamFailed (h : s.thread.region = .streaming) (h' : s'.thread.region = .ended)
      (ho : ∀ payload, o ≠ .start payload)
      (hout : ∀ e ∈ out, e.isThreadFailure = true ∨ e = .badBroadcastIdAccess)
  | wentLive (payload : Option StartPayload) (h : s.thread = .goLive payload)
      (hstate : s.state = .streaming) (h' : s'.thread.region = .looping) (hout : out = [.wentLive])
  | missedLive (payload : Option StartPayload) (h : s.thread = .goLive payload)
      (hstate : s.state ≠ .streaming) (h' : s'.thread.region = .stopping) (hout : out = [])
  | looping (h : s.thread.region = .looping) (h' : s'.thread.region = .looping)
      (ho : o ≠ .failure) (hafter : s.thread ≠ .afterLoop)
      (hout : ∀ e ∈ out, e.isThreadFailure = true ∨ e = .heartbeatIteration ∨ e = .heartbeat)
  | loopStopped (h : s.thread = .afterLoop) (hstate : s.state = .stopping)
      (h' : s'.thread.region = .stopping) (hout : out = [])
  | loopEnded (h : s.thread.region = .looping) (h' : s'.thread.region = .ended)
      (hwhy : s.thread = .afterLoop ∧ s.state ≠ .stopping ∨
        (∃ x, s.thread = .updateFeed x ∧ o = .failure) ∨ s'.thread = .aborted)
      (hout : ∀ e ∈ out, e.isThreadFailure = true ∨ e = .heartbeat)
  | stopped (h : s.thread.region = .stopping) (h' : s'.thread.region = .ended)
      (hout : out = [.stopBroadcast])
  | ended (h : s.thread.region = .ended) (h' : s'.thread.region = .ended) (hout : out = [])

section

variable {s s' : World} {o : Outcome} {out : List Event}

/-- Where a stage goes to stays in its region. -/
theorem Stage.region_next (p : Stage) : p.next.region = p.region := by
  cases p <;> rfl

theorem Stage.region_giveUp {p : Stage} {error : Result} {exit : Thread}
    (h : p.giveUp = some (error, exit)) : exit.region = .ended := by
  cases p <;> simp only [Stage.giveUp, Option.some.injEq, Prod.mk.injEq, reduceCtorEq] at h <;>
    rw [← h.2] <;> rfl

/-- Only the screenshot, in the second region, accesses the broadcast id. -/
theorem Stage.access_eq_nil {p : Stage} (s : World) (hp : p.region = .starting) :
    p.access s = [] := by
  cases p <;> first | rfl | cases hp

theorem Stage.eq_of_mem_access {p : Stage} {e : Event} (he : e ∈ p.access s) :
    e = .badBroadcastIdAccess := by
  cases p <;> simp only [Stage.access, List.not_mem_nil] at he
  split at he
  · cases he
  · exact List.mem_singleton.mp he

theorem Stage.region_eq (p : Stage) : p.region = .starting ∨ p.region = .streaming := by
  cases p <;> simp [Stage.region]

theorem regionMoves_of_abort (hs : s.thread.waits = true) :
    RegionMoves s .raised (s.goto .aborted) s.abortEvents := by
  rcases ht : s.thread with _ | p | _ | _ | x | _ | _ | _ | _ | x | p | _ | n | _ | _ | x | _ | _ |
    _ | _ | _ | _
  -- only the counters that wait are left
  all_goals
    first
      | (rw [ht] at hs; cases hs; done)
      | skip
  case stage =>
    rcases p.region_eq with hp | hp
    · refine .startFailed (by rw [ht]; exact hp) rfl fun e he => ?_
      rw [World.abortEvents, ht] at he
      simp [p.access_eq_nil s hp] at he
    · refine .streamFailed (by rw [ht]; exact hp) rfl (by simp) fun e he => .inr ?_
      rw [World.abortEvents, ht] at he
      exact p.eq_of_mem_access he
  case addFeed => exact .startFailed (by rw [ht]; rfl) rfl (by simp [World.abortEvents, ht])
  case startBroadcast =>
    exact .streamFailed (by rw [ht]; rfl) rfl (by simp) (by simp [World.abortEvents, ht])
  case heartbeat =>
    exact .loopEnded (by rw [ht]; rfl) rfl (.inr (.inr rfl)) (by simp [World.abortEvents, ht])
  case updateFeed =>
    exact .loopEnded (by rw [ht]; rfl) rfl (.inr (.inr rfl)) (by simp [World.abortEvents, ht])
  case stopBroadcast => exact .stopped (by rw [ht]; rfl) rfl (by simp [World.abortEvents, ht])

/-- **The thread moves between regions.** -/
theorem ThreadMoves.regionMoves (h : ThreadMoves s o s' out) : RegionMoves s o s' out := by
  cases h with
  | advance p hs hok =>
      rcases p.region_eq with hp | hp
      · exact .starting (by rw [hs]; exact hp) (p.region_next.trans hp) (p.access_eq_nil s hp)
      · exact .streaming (by rw [hs]; exact hp) (p.region_next.trans hp) rfl
          fun e he => p.eq_of_mem_access he
  | giveUp o p error exit hs ho hg =>
      rcases p.region_eq with hp | hp
      · refine .startFailed (by rw [hs]; exact hp) (Stage.region_giveUp hg) fun e he => ?_
        rw [p.access_eq_nil s hp, List.nil_append, List.mem_singleton] at he
        rw [he]
        rfl
      · refine .streamFailed (by rw [hs]; exact hp) (Stage.region_giveUp hg) (fun payload => ?_)
          fun e he => ?_
        · rcases ho with rfl | rfl <;> simp
        · rcases List.mem_append.mp he with he | he
          · exact .inr (p.eq_of_mem_access he)
          · rw [List.mem_singleton.mp he]
            exact .inl rfl
  | enterFeed hs hstate => exact .starting (by rw [hs]; rfl) rfl rfl
  | refuseFeed hs hstate =>
      exact .startFailed (by rw [hs]; rfl) rfl (by simp [Event.isThreadFailure])
  | sendFeed hs => exact .starting (by rw [hs]; rfl) rfl rfl
  | feedAdded x id url hs hserved => exact .starting (by rw [hs]; rfl) rfl rfl
  | feedFailed x payload id error hs hpayload hid =>
      exact .startFailed (by rw [hs]; rfl) rfl (by simp [Event.isThreadFailure])
  | goStreaming hs hstate => exact .starting (by rw [hs]; rfl) rfl rfl
  | missStreaming hs hstate => exact .startFailed (by rw [hs]; rfl) rfl (by simp)
  | callStarted hs => exact .started (by rw [hs]; rfl) rfl rfl
  | enterHeartbeat hs hstate => exact .streaming (by rw [hs]; rfl) rfl rfl (by simp)
  | refuseHeartbeat hs hstate => exact .streamFailed (by rw [hs]; rfl) rfl (by simp) (by simp)
  | sendTitle hs => exact .streaming (by rw [hs]; rfl) rfl rfl (by simp)
  | startAnswered x payload hs hserved => exact .answered x payload hs rfl rfl rfl
  | goLive payload hs hstate => exact .wentLive payload hs hstate rfl rfl
  | missLive payload hs hstate => exact .missedLive payload hs hstate rfl rfl
  | stopAfterLoop hs hstate => exact .loopStopped hs hstate rfl rfl
  | endAfterLoop hs hstate =>
      exact .loopEnded (by rw [hs]; rfl) rfl (.inl ⟨hs, hstate⟩) (by simp)
  | updateFailed x hs =>
      exact .loopEnded (by rw [hs]; rfl) rfl (.inr (.inl ⟨x, hs, rfl⟩))
        (by simp [Event.isThreadFailure])
  | stopAnswered o hs => exact .stopped (by rw [hs]; rfl) rfl rfl
  | release hs => exact .ended (by rw [hs]; rfl) rfl rfl
  | abort hs => exact regionMoves_of_abort hs
  -- what is left stays in the loop
  | _ =>
      exact .looping (by simp [*, Thread.region]) rfl (by simp) (by simp [*])
        (by simp [Event.isThreadFailure])

/-- Past its end the thread shows nothing. -/
theorem RegionMoves.of_ended (ht : s.thread.region = .ended) (hmoves : RegionMoves s o s' out) :
    s'.thread.region = .ended ∧ out = [] := by
  cases hmoves with
  | ended h h' hout => exact ⟨h', hout⟩
  | answered x p h => rw [h] at ht; cases ht
  | wentLive p h => rw [h] at ht; cases ht
  | missedLive p h => rw [h] at ht; cases ht
  | _ h => rw [h] at ht; cases ht

/-- `StopBroadcast` is the last thing the thread shows. -/
theorem RegionMoves.of_stopBroadcast (hmem : .stopBroadcast ∈ out)
    (hmoves : RegionMoves s o s' out) : s'.thread.region = .ended ∧ out = [.stopBroadcast] := by
  cases hmoves with
  | stopped h h' hout => exact ⟨h', hout⟩
  | startFailed h h' hout => cases hout _ hmem
  | streaming h h' ho hout => cases hout _ hmem
  | answered x payload h ho h' hout =>
      rw [hout] at hmem
      rcases startAnswered_events s payload with ⟨hev, -⟩ | ⟨hev, -⟩ | ⟨hev, -⟩ <;>
        simp [hev] at hmem
  | streamFailed h h' ho hout => rcases hout _ hmem with he | he <;> cases he
  | looping h h' ho hafter hout => rcases hout _ hmem with he | he | he <;> cases he
  | loopEnded h h' hwhy hout => rcases hout _ hmem with he | he <;> cases he
  | starting h h' hout => rw [hout] at hmem; cases hmem
  | started h h' hout => simp [hout] at hmem
  | wentLive p h hstate h' hout => simp [hout] at hmem
  | missedLive p h hstate h' hout => rw [hout] at hmem; cases hmem
  | loopStopped h hstate h' hout => rw [hout] at hmem; cases hmem
  | ended h h' hout => rw [hout] at hmem; cases hmem

/-! ## Histories of the thread -/

variable {title gameId : Bytes} {rating : Rating} {tr : List (World × Action)} {es : List Event}

/-- **Induction over the history of the thread.**  A property of the steps, the
events of the thread and its program counter holds of every run if the creation of
the thread, its steps, and the steps of all others keep it. -/
theorem Runs.thread_induction {I : List (World × Action) → List Event → Thread → Prop}
    (hinit : I [] [] .notCreated)
    (hcreate : ∀ tr l s a, I tr l .notCreated → (∀ o, a ≠ .thread o) →
      I (tr ++ [(s, a)]) l (.stage .setupSubscription))
    (hother : ∀ tr l (s : World) a, I tr l s.thread → (∀ o, a ≠ .thread o) →
      I (tr ++ [(s, a)]) l s.thread)
    (hthread : ∀ tr l (s : World) o s' out, I tr l s.thread → ThreadMoves s o s' out →
      I (tr ++ [(s, .thread o)]) (l ++ out) s'.thread)
    (h : Runs title rating gameId tr es s) : I tr (threadEvents es) s.thread := by
  refine (Machine.Run.induction_on_trace (I := fun tr es s =>
    (s.thread ≠ .notCreated → s.startCall = .returned) ∧ I tr (threadEvents es) s.thread)
    ?_ ?_ h).2
  · exact ⟨fun h => absurd rfl h, hinit⟩
  rintro tr es s a s' out ⟨hcreated, hI⟩ hs
  refine ⟨Moves.startCall_of_thread hcreated (moves_of_step hs), ?_⟩
  rcases (moves_of_step hs).cases_thread with ⟨o, rfl, hmoves, hev⟩ | ⟨ha, hev, hsame | ⟨hc, hnew⟩⟩
  · rw [hev]
    exact hthread tr _ s o s' out hI hmoves
  · rw [hev, hsame]
    exact hother tr _ s a hI ha
  · -- the thread is created once, before `start` returns
    have hnot : s.thread = .notCreated := by
      by_contra hne
      rw [hcreated hne] at hc
      cases hc
    rw [hev, hnew]
    rw [hnot] at hI
    exact hcreate tr _ s a hI ha

/-! ## After `stop` -/

/-- What `stop` has seen to when it has come back from joining the thread. -/
structure JoinInv (s : World) : Prop where
  reachable : s.stopCall ≠ .notCalled → s.reachable = true
  joined : s.stopCall = .joined ∨ s.stopCall = .returned → s.canJoin = true

theorem not_running_of_canJoin (h : s.canJoin = true) : s.thread.running = false := by
  rw [World.canJoin, decide_eq_true_eq] at h
  rcases h with h | h <;> rw [h] <;> rfl

/-- `stop` is not called before `start` has come back. -/
theorem JoinInv.stopCall_of_not_reachable (h : JoinInv s) (hr : s.reachable = false) :
    s.stopCall = .notCalled := by
  by_contra hstop
  rw [h.reachable hstop] at hr
  cases hr

theorem JoinInv.moves {a : Action} (h : JoinInv s) (hmoves : Moves s a s' out) : JoinInv s' := by
  cases hmoves with
  | thread hthread =>
      constructor
      · intro hc
        rw [hthread.stopCall_eq] at hc
        rw [World.reachable, hthread.startCall_eq]
        exact h.reachable hc
      · intro hc
        rw [hthread.stopCall_eq] at hc
        have hrunning := hthread.running
        rw [not_running_of_canJoin (h.joined hc)] at hrunning
        cases hrunning
  | other a ha hcore hvideo hout =>
      constructor
      · intro hc
        rw [hcore.stopCall] at hc
        rw [World.reachable, hcore.startCall]
        exact h.reachable hc
      · intro hc
        rw [hcore.stopCall] at hc
        rw [World.canJoin, hcore.thread]
        exact h.joined hc
  | start hc =>
      have hnot := h.stopCall_of_not_reachable (by simp [World.reachable, hc])
      exact ⟨fun hstop => absurd hnot hstop, fun hstop => by simp [hnot] at hstop⟩
  | createThread hc =>
      have hnot := h.stopCall_of_not_reachable (by simp [World.reachable, hc])
      exact ⟨fun hstop => absurd hnot hstop, fun hstop => by simp [hnot] at hstop⟩
  | raise hc => exact ⟨fun _ => rfl, h.joined⟩
  | storeStopping hc hr => exact ⟨fun _ => hr, fun hstop => by simp at hstop⟩
  | join hc hj => exact ⟨fun _ => h.reachable (by rw [hc]; decide), fun _ => hj⟩
  | storeOffline hc =>
      exact ⟨fun _ => h.reachable (by rw [hc]; decide), fun _ => h.joined (.inl hc)⟩

theorem joinInv_init (title : Bytes) (rating : Rating) (gameId : Bytes) :
    JoinInv (World.init title rating gameId) := by
  refine ⟨fun hc => absurd rfl hc, fun hc => ?_⟩
  rcases hc with hc | hc <;> cases hc

theorem Runs.joinInv (h : Runs title rating gameId tr es s) : JoinInv s :=
  Machine.Run.invariant (joinInv_init title rating gameId)
    (fun _ _ _ _ hi hs => hi.moves (moves_of_step hs)) h

/-- The call of `stop` as its events tell it. -/
theorem Runs.stopCall_of_stopReturned (h : Runs title rating gameId tr es s) :
    .stopReturned ∈ es → s.stopCall = .returned := by
  refine Machine.Run.induction_on_trace
    (I := fun _ es s => .stopReturned ∈ es → s.stopCall = .returned) (by simp) ?_ h
  intro _ es s a s' out ih hs hmem
  have hmoves := moves_of_step hs
  rcases List.mem_append.mp hmem with hold | hnew
  · exact hmoves.stopCall_of_returned (ih hold)
  · exact (hmoves.stop_of_stopReturned hnew).2

/-- **Nothing after `stop`**: once `stop` has returned the thread does nothing more. -/
theorem Runs.quiet_after_stop (h : Runs title rating gameId tr es s) :
    es.Pairwise fun e e' => e = .stopReturned → e'.ofThread = false := by
  refine (Machine.Run.induction_on_trace (I := fun tr es s => Runs title rating gameId tr es s ∧
    es.Pairwise fun e e' => e = .stopReturned → e'.ofThread = false)
    ⟨.refl _, List.Pairwise.nil⟩ ?_ h).2
  rintro tr es s a s' out ⟨hrun, hquiet⟩ hs
  refine ⟨hrun.snoc hs, ?_⟩
  rw [List.pairwise_append]
  rcases (moves_of_step hs).cases_thread with ⟨o, -, hthread, -⟩ | ⟨-, hnone, -⟩
  · refine ⟨hquiet, List.pairwise_of_forall_mem_list fun e he e' _ hstop => ?_, ?_⟩
    · exact absurd (hthread.ofThread e he) (by rw [hstop]; decide)
    · -- `stop` has joined the thread, which is then not running
      rintro e he e' - rfl
      have hjoin := hrun.joinInv.joined (.inr (hrun.stopCall_of_stopReturned he))
      have hrunning := hthread.running
      rw [not_running_of_canJoin hjoin] at hrunning
      cases hrunning
  · have hout : ∀ e ∈ out, e.ofThread = false := by
      intro e he
      simpa using List.filter_eq_nil_iff.mp (hnone []) e he
    exact ⟨hquiet, List.pairwise_of_forall_mem_list fun e _ e' he' _ => hout e' he',
      fun e _ e' he' _ => hout e' he'⟩

end

end Caff
