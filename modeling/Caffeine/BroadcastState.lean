/-
# The state of a broadcast

The atomic `state` is written by compare-and-swap on the broadcast thread and by
plain stores in `stop`, and the members the application's calls and the thread
rely on are assigned on the way.  The invariant `StateInv` ties the three
together: how far the thread has come says what is assigned, the call of `stop`
says what the state is, and an online state says that everything is assigned.
-/
import Caffeine.BroadcastMoves

namespace Caff

/-! ## How far the thread has come -/

/-- The members assigned before the thread gets to a step: none, the capturer, the
peer connection too, or the feed as well. -/
def Stage.progress : Stage → ℕ
  | .setupSubscription | .createVideoTrack => 0
  | .createPeerConnection => 1
  | .awaitOffer | .setLocalDescription => 2
  | _ => 3

def Thread.progress : Thread → ℕ
  | .notCreated | .finished | .aborted => 0
  | .stage p => p.progress
  | .requireStarting | .readFeedInput | .addFeed _ => 2
  | _ => 3

/-- The members that come with `n` steps of progress are assigned. -/
structure World.Assigned (s : World) (n : ℕ) : Prop where
  video : 1 ≤ n → s.videoCapturer = true
  peer : 2 ≤ n → s.peerConnection = true
  feed : 3 ≤ n → s.broadcastId.isSome = true ∧ s.streamUrl.isSome = true

theorem World.Assigned.mono {s : World} {m n : ℕ} (h : s.Assigned n) (hmn : m ≤ n) :
    s.Assigned m where
  video hm := h.video (by omega)
  peer hm := h.peer (by omega)
  feed hm := h.feed (by omega)

theorem World.assigned_zero (s : World) : s.Assigned 0 where
  video h := by omega
  peer h := by omega
  feed h := by omega

/-- `Assigned` looks only at the four members. -/
theorem World.Assigned.congr {s s' : World} {n : ℕ} (h : s.Assigned n)
    (hvideo : s'.videoCapturer = s.videoCapturer) (hpeer : s'.peerConnection = s.peerConnection)
    (hid : s'.broadcastId = s.broadcastId) (hurl : s'.streamUrl = s.streamUrl) :
    s'.Assigned n where
  video hn := by rw [hvideo, h.video hn]
  peer hn := by rw [hpeer, h.peer hn]
  feed hn := by rw [hid, hurl]; exact h.feed hn

/-- What a stage assigns is what its next step counts on. -/
theorem assigned_next {s : World} {p : Stage} (h : s.Assigned p.progress) :
    ((p.assign s).goto p.next).Assigned p.next.progress := by
  cases p
  case createVideoTrack =>
    exact ⟨fun _ => rfl, fun hn => absurd hn (by decide), fun hn => absurd hn (by decide)⟩
  case createPeerConnection =>
    exact ⟨fun _ => h.video (by decide), fun _ => rfl, fun hn => absurd hn (by decide)⟩
  case setupSubscription => exact World.assigned_zero _
  all_goals exact ⟨h.video, h.peer, h.feed⟩

/-- Giving up undoes no progress that is counted afterwards. -/
theorem progress_giveUp {p : Stage} {error : Result} {exit : Thread}
    (h : p.giveUp = some (error, exit)) : exit.progress ≤ p.progress := by
  cases p <;> simp only [Stage.giveUp, Option.some.injEq, Prod.mk.injEq, reduceCtorEq] at h <;>
    rw [← h.2] <;> simp [Thread.progress, Stage.progress]

/-! ## The invariant -/

structure StateInv (s : World) : Prop where
  /-- What the thread counts on is assigned. -/
  assigned : s.Assigned s.thread.progress
  /-- An online broadcast has everything assigned. -/
  online : s.isOnline = true → s.Assigned 3
  /-- A frame is only captured with a capturer. -/
  sending : ∀ i, s.calls i = .sendingVideo → s.videoCapturer = true
  /-- `stop` comes after `start`. -/
  started : s.stopCall ≠ .notCalled → s.startCall ≠ .notCalled
  stopping : s.stopCall = .joining ∨ s.stopCall = .joined → s.state = .stopping
  stopped : s.stopCall = .returned → s.state = .offline

theorem World.isOnline_iff {s : World} :
    s.isOnline = true ↔ s.state = .streaming ∨ s.state = .live := by
  unfold World.isOnline
  cases s.state <;> simp

/-- Once `stop` has been called the broadcast is not online. -/
theorem StateInv.not_online {s : World} (h : StateInv s) (hstop : s.stopCall ≠ .notCalled) :
    s.state = .stopping ∨ s.state = .offline := by
  rcases hc : s.stopCall with _ | _ | _ | _
  · exact absurd hc hstop
  · exact .inl (h.stopping (.inl hc))
  · exact .inl (h.stopping (.inr hc))
  · exact .inr (h.stopped hc)

theorem stateInv_init (title : Bytes) (rating : Rating) (gameId : Bytes) :
    StateInv (World.init title rating gameId) where
  assigned := World.assigned_zero _
  online h := by cases h
  sending i hi := by cases hi
  started h := absurd rfl h
  stopping h := by rcases h with h | h <;> cases h
  stopped h := by cases h

/-- A move of the thread that touches neither the state nor a member. -/
theorem StateInv.goto {s : World} (h : StateInv s) {t : Thread}
    (ht : t.progress ≤ s.thread.progress) : StateInv (s.goto t) where
  assigned := (h.assigned.mono ht).congr rfl rfl rfl rfl
  online := fun honline => (h.online honline).congr rfl rfl rfl rfl
  sending := h.sending
  started := h.started
  stopping := h.stopping
  stopped := h.stopped

theorem Stage.assign_state (s : World) (p : Stage) : (p.assign s).state = s.state := by
  cases p <;> rfl

theorem Stage.assign_calls (s : World) (p : Stage) : (p.assign s).calls = s.calls := by
  cases p <;> rfl

theorem Stage.assign_startCall (s : World) (p : Stage) :
    (p.assign s).startCall = s.startCall := by
  cases p <;> rfl

theorem Stage.assign_stopCall (s : World) (p : Stage) : (p.assign s).stopCall = s.stopCall := by
  cases p <;> rfl

/-- Assigning takes nothing away. -/
theorem Stage.assigned_assign {s : World} {n : ℕ} (p : Stage) (h : s.Assigned n) :
    (p.assign s).Assigned n := by
  cases p
  case createVideoTrack => exact ⟨fun _ => rfl, h.peer, h.feed⟩
  case createPeerConnection => exact ⟨h.video, fun _ => rfl, h.feed⟩
  all_goals exact ⟨h.video, h.peer, h.feed⟩

/-- The thread goes on with the members and the state it finds. -/
theorem StateInv.congr {s s' : World} (h : StateInv s)
    (hassigned : s'.Assigned s'.thread.progress) (hstate : s'.state = s.state)
    (honline : s.Assigned 3 → s'.Assigned 3)
    (hvideo : s.videoCapturer = true → s'.videoCapturer = true) (hcalls : s'.calls = s.calls)
    (hstart : s'.startCall = s.startCall) (hstop : s'.stopCall = s.stopCall) : StateInv s' where
  assigned := hassigned
  online hon := honline (h.online (by
    rw [World.isOnline_iff] at hon ⊢
    rwa [hstate] at hon))
  sending i hi := hvideo (h.sending i (by rwa [hcalls] at hi))
  started := by rw [hstart, hstop]; exact h.started
  stopping := by rw [hstop, hstate]; exact h.stopping
  stopped := by rw [hstop, hstate]; exact h.stopped

/-- The compare-and-swap to an online state succeeds with everything assigned, and not
once `stop` has been called. -/
theorem StateInv.transition {s : World} (h : StateInv s) (hp : s.Assigned 3)
    (hstate : s.state ≠ .stopping ∧ s.state ≠ .offline) (st : State) {t : Thread}
    (ht : t.progress ≤ 3) : StateInv (({ s with state := st }).goto t) := by
  have hnot : s.stopCall = .notCalled := by
    by_contra hstop
    rcases h.not_online hstop with hst | hst
    · exact hstate.1 hst
    · exact hstate.2 hst
  refine ⟨(hp.mono ht).congr rfl rfl rfl rfl, fun _ => hp.congr rfl rfl rfl rfl, h.sending,
    h.started, fun hst => ?_, fun hst => ?_⟩
  · rcases hst with hst | hst <;> rw [hnot] at hst <;> cases hst
  · rw [hnot] at hst
    cases hst

/-- **Step lemma for the thread.** -/
theorem StateInv.threadMoves {s s' : World} {o : Outcome} {out : List Event} (h : StateInv s)
    (hmoves : ThreadMoves s o s' out) : StateInv s' := by
  cases hmoves with
  | advance p hs hok =>
      have hp : s.Assigned p.progress := by
        have := h.assigned
        rwa [hs] at this
      exact h.congr (assigned_next hp) (p.assign_state s)
        (fun hon => (p.assigned_assign hon).congr rfl rfl rfl rfl)
        (fun hv => by cases p <;> first | exact hv | rfl)
        (p.assign_calls s) (p.assign_startCall s) (p.assign_stopCall s)
  | giveUp o p error exit hs ho hg =>
      exact h.goto (by rw [hs]; exact progress_giveUp hg)
  | sendFeed hs =>
      have hp : s.Assigned 2 := by simpa [hs, Thread.progress] using h.assigned
      exact h.congr (hp.congr rfl rfl rfl rfl) rfl (fun hon => hon.congr rfl rfl rfl rfl)
        (fun hv => hv) rfl rfl rfl
  | feedAdded x id url hs hserved =>
      have hp : s.Assigned 2 := by simpa [hs, Thread.progress] using h.assigned
      have hall : World.Assigned (({ s with broadcastId := some id, streamUrl := some url }).goto
          (.stage .createRemoteDescription)) 3 :=
        ⟨fun _ => hp.video (by omega), fun _ => hp.peer (by omega), fun _ => ⟨rfl, rfl⟩⟩
      exact h.congr hall rfl (fun _ => hall) (fun hv => hv) rfl rfl rfl
  | feedFailed x payload id error hs hpayload hid =>
      refine h.congr (World.assigned_zero _) rfl (fun hon => ?_) (fun hv => hv) rfl rfl rfl
      exact ⟨hon.video, hon.peer, fun hn => ⟨hid (hon.feed hn).1, (hon.feed hn).2⟩⟩
  | goStreaming hs hstate =>
      have hp : s.Assigned 3 := by simpa [hs, Thread.progress] using h.assigned
      exact h.transition hp (by rw [hstate]; decide) .streaming le_rfl
  | sendTitle hs =>
      have hp : s.Assigned 3 := by simpa [hs, Thread.progress] using h.assigned
      exact h.congr (hp.congr rfl rfl rfl rfl) rfl (fun hon => hon.congr rfl rfl rfl rfl)
        (fun hv => hv) rfl rfl rfl
  | goLive payload hs hstate =>
      have hp : s.Assigned 3 := by simpa [hs, Thread.progress] using h.assigned
      exact h.transition hp (by rw [hstate]; decide) .live le_rfl
  | newQuality quality hs hq =>
      have hp : s.Assigned 3 := by simpa [hs, Thread.progress] using h.assigned
      exact h.congr (hp.congr rfl rfl rfl rfl) rfl (fun hon => hon.congr rfl rfl rfl rfl)
        (fun hv => hv) rfl rfl rfl
  | sendUpdate hs =>
      have hp : s.Assigned 3 := by simpa [hs, Thread.progress] using h.assigned
      exact h.congr (hp.congr rfl rfl rfl rfl) rfl (fun hon => hon.congr rfl rfl rfl rfl)
        (fun hv => hv) rfl rfl rfl
  | release hs =>
      exact h.congr (World.assigned_zero _) rfl (fun hon => hon.congr rfl rfl rfl rfl)
        (fun hv => hv) rfl rfl rfl
  | abort hs => exact h.goto (Nat.zero_le _)
  | _ => exact h.goto (by simp [*, Thread.progress, Stage.progress])

/-- **Step lemma.** -/
theorem StateInv.moves {s s' : World} {a : Action} {out : List Event} (h : StateInv s)
    (hmoves : Moves s a s' out) : StateInv s' := by
  cases hmoves with
  | thread hthread => exact h.threadMoves hthread
  | start hc =>
      have hnot : s.stopCall = .notCalled := by
        by_contra hstop
        exact h.started hstop hc
      -- `start` moves the state to `Starting` at most, which is not online
      refine ⟨h.assigned.congr rfl rfl rfl rfl, fun hon => ?_, h.sending, fun _ => by simp,
        fun hst => ?_, fun hst => ?_⟩
      · refine (h.online ?_).congr rfl rfl rfl rfl
        rw [World.isOnline_iff] at hon ⊢
        by_cases hoff : s.state = .offline
        · simp [hoff] at hon
        · simpa [hoff] using hon
      · rcases hst with hst | hst <;> rw [hnot] at hst <;> cases hst
      · rw [hnot] at hst
        cases hst
  | createThread hc =>
      refine ⟨World.assigned_zero _, fun hon => (h.online hon).congr rfl rfl rfl rfl, h.sending,
        fun _ => by simp, h.stopping, h.stopped⟩
  | raise hc =>
      exact ⟨h.assigned.congr rfl rfl rfl rfl, fun hon => (h.online hon).congr rfl rfl rfl rfl,
        h.sending, fun _ => by simp, h.stopping, h.stopped⟩
  | storeStopping hc hr =>
      refine ⟨h.assigned.congr rfl rfl rfl rfl, fun hon => (nomatch hon), h.sending,
        fun _ hstart => ?_, fun _ => rfl, fun hst => (nomatch hst)⟩
      have hstart' : s.startCall = .notCalled := hstart
      simp [World.reachable, hstart'] at hr
  | join hc hj =>
      exact ⟨h.assigned.congr rfl rfl rfl rfl, fun hon => (h.online hon).congr rfl rfl rfl rfl,
        h.sending, fun _ => h.started (by rw [hc]; decide), fun _ => h.stopping (.inl hc),
        fun hst => (nomatch hst)⟩
  | storeOffline hc =>
      refine ⟨h.assigned.congr rfl rfl rfl rfl, fun hon => (nomatch hon), h.sending,
        fun _ => h.started (by rw [hc]; decide), fun hst => ?_, fun _ => rfl⟩
      rcases hst with hst | hst <;> cases hst
  | other a ha hcore hvideo hout =>
      refine ⟨?_, fun hon => ?_, fun i hi => ?_, ?_, ?_, ?_⟩
      · rw [hcore.thread]
        exact h.assigned.congr hcore.videoCapturer hcore.peerConnection hcore.broadcastId
          hcore.streamUrl
      · refine (h.online ?_).congr hcore.videoCapturer hcore.peerConnection hcore.broadcastId
          hcore.streamUrl
        rw [World.isOnline_iff] at hon ⊢
        rwa [hcore.state] at hon
      · -- a frame call that has just begun has found the broadcast online
        rw [hcore.videoCapturer]
        rcases hvideo i hi with hi | honline
        · exact h.sending i hi
        · exact (h.online honline).video (by omega)
      · rw [hcore.stopCall, hcore.startCall]
        exact h.started
      · rw [hcore.stopCall, hcore.state]
        exact h.stopping
      · rw [hcore.stopCall, hcore.state]
        exact h.stopped

/-! ## Every run -/

/-- A run of a broadcast from its construction. -/
def Runs (title : Bytes) (rating : Rating) (gameId : Bytes) (tr : List (World × Action))
    (es : List Event) (s : World) : Prop :=
  broadcastMachine.Run (World.init title rating gameId) tr es s

section

variable {title gameId : Bytes} {rating : Rating} {tr : List (World × Action)} {es : List Event}
  {s : World}

/-- **Run lemma.** -/
theorem Runs.stateInv (h : Runs title rating gameId tr es s) : StateInv s :=
  Machine.Run.invariant (stateInv_init title rating gameId)
    (fun _ _ _ _ hi hs => hi.moves (moves_of_step hs)) h

/-- A thread there is was created by `start`: the step lemma, and the run lemma. -/
theorem Moves.startCall_of_thread {s' : World} {a : Action} {out : List Event}
    (hi : s.thread ≠ .notCreated → s.startCall = .returned) (hmoves : Moves s a s' out) :
    s'.thread ≠ .notCreated → s'.startCall = .returned := by
  have hnot : s.startCall ≠ .returned → s.thread = .notCreated := fun hc =>
    not_imp_comm.mp hi hc
  cases hmoves with
  | thread hthread =>
      intro _
      rw [hthread.startCall_eq]
      apply hi
      intro hne
      have := hthread.running
      rw [hne] at this
      cases this
  | other a ha hcore hvideo hout =>
      rw [hcore.thread, hcore.startCall]
      exact hi
  | start hc => exact fun hne => absurd (hnot (by rw [hc]; decide)) hne
  | raise hc => exact fun hne => absurd (hnot (by rw [hc]; decide)) hne
  | createThread hc => exact fun _ => rfl
  | storeStopping hc hr => exact hi
  | join hc hj => exact hi
  | storeOffline hc => exact hi

theorem Runs.startCall_of_thread (h : Runs title rating gameId tr es s)
    (ht : s.thread ≠ .notCreated) : s.startCall = .returned :=
  Machine.Run.invariant (I := fun s => s.thread ≠ .notCreated → s.startCall = .returned)
    (fun hne => absurd rfl hne)
    (fun _ _ _ _ hi hs => Moves.startCall_of_thread hi (moves_of_step hs)) h ht

/-- The moves of the state in one step, and who makes them. -/
inductive StateMoves : State → Action → State → Prop
  | stay (st : State) (a : Action) : StateMoves st a st
  | start : StateMoves .offline .start .starting
  | goStreaming (o : Outcome) : StateMoves .starting (.thread o) .streaming
  | goLive (o : Outcome) : StateMoves .streaming (.thread o) .live
  | stop (st : State) : StateMoves st .stop .stopping
  | goOffline : StateMoves .stopping .stop .offline

theorem StateInv.stateMoves {s' : World} {a : Action} {out : List Event} (h : StateInv s)
    (hmoves : Moves s a s' out) : StateMoves s.state a s'.state := by
  cases hmoves with
  | thread hthread =>
      cases hthread with
      | goStreaming hs hstate => rw [hstate]; exact .goStreaming _
      | goLive payload hs hstate => rw [hstate]; exact .goLive _
      | advance p hs hok => rw [World.goto_state, p.assign_state s]; exact .stay _ _
      | _ => exact .stay _ _
  | start hc =>
      by_cases hoff : s.state = .offline
      · simp only [hoff, if_true]
        exact .start
      · simp only [if_neg hoff]
        exact .stay _ _
  | storeStopping hc hr => exact .stop _
  | storeOffline hc => rw [h.stopping (.inr hc)]; exact .goOffline
  | other a ha hcore hvideo hout => rw [hcore.state]; exact .stay _ _
  | createThread hc => exact .stay _ _
  | raise hc => exact .stay _ _
  | join hc hj => exact .stay _ _

/-- Nothing undefined happens in a step from a state of the invariant. -/
theorem StateInv.no_undefined {s' : World} {a : Action} {out : List Event} (h : StateInv s)
    (hmoves : Moves s a s' out) :
    .uninitializedVideoCapturer ∉ out ∧ .badBroadcastIdAccess ∉ out := by
  -- the broadcast id is there when the thread gets to the screenshot
  have haccess : ∀ p, s.thread = .stage p → p.access s = [] := by
    intro p hs
    cases p <;> try rfl
    have hp : s.Assigned 3 := by simpa [hs, Thread.progress, Stage.progress] using h.assigned
    simp [Stage.access, (hp.feed le_rfl).1]
  cases hmoves with
  | thread hthread =>
      cases hthread with
      | advance p hs hok => simp [haccess p hs]
      | giveUp o p error exit hs ho hg => simp [haccess p hs]
      | startAnswered x payload hs hserved =>
          rcases startAnswered_events s payload with ⟨hev, -⟩ | ⟨hev, -⟩ | ⟨hev, -⟩ <;>
            simp [hev]
      | abort hs =>
          unfold World.abortEvents
          split
          · rename_i p hp
            simp [haccess p hp]
          all_goals simp
      | _ => simp
  | other a ha hcore hvideo hout =>
      constructor
      · intro he
        obtain ⟨hv, i, hi⟩ := hout _ he
        rw [h.sending i hi] at hv
        cases hv
      · exact fun he => hout _ he
  | _ => simp

/-- Once `stop` has been seen to store `Stopping` its call has begun. -/
theorem Runs.stopCall_of_stopStored (h : Runs title rating gameId tr es s)
    (hmem : .stopStored ∈ es) : s.stopCall ≠ .notCalled := by
  have hrun : .stopStored ∈ es → s.stopCall ≠ .notCalled := by
    refine Machine.Run.induction_on_trace
      (I := fun _ es s => .stopStored ∈ es → s.stopCall ≠ .notCalled) (by simp) ?_ h
    intro _ es s a s' out ih hs hmem
    have hmoves := moves_of_step hs
    cases hmoves with
    | thread hthread =>
        have hout : .stopStored ∉ out := fun he => absurd (hthread.ofThread _ he) (by decide)
        have hstop : s'.stopCall = s.stopCall := hthread.stopCall_eq
        rw [hstop]
        exact ih ((List.mem_append.mp hmem).resolve_right hout)
    | other a ha hcore hvideo hout =>
        rw [hcore.stopCall]
        exact ih ((List.mem_append.mp hmem).resolve_right fun he => hout _ he)
    | start hc => exact ih (by simpa using hmem)
    | createThread hc => exact ih (by simpa using hmem)
    | raise hc => exact ih (by simpa using hmem)
    | storeStopping hc hr => simp
    | join hc hj => simp
    | storeOffline hc => simp
  exact hrun hmem

/-- **The state and the members of a broadcast.**  In every state a broadcast can
get to: every further step moves the state along `StateMoves`; after `stop` has
stored `Stopping` it is neither streaming nor live; if it is, the capturer, the
peer connection, the stream URL and the broadcast id are assigned; and neither an
unassigned capturer nor an absent broadcast id has been used. -/
theorem state_of_broadcast (h : Runs title rating gameId tr es s) :
    (∀ a s' out, broadcastMachine.step s a = some (s', out) → StateMoves s.state a s'.state) ∧
    (.stopStored ∈ es → s.state ≠ .streaming ∧ s.state ≠ .live) ∧
    (s.state = .streaming ∨ s.state = .live →
      s.videoCapturer = true ∧ s.peerConnection = true ∧ s.streamUrl.isSome = true ∧
        s.broadcastId.isSome = true) ∧
    .uninitializedVideoCapturer ∉ es ∧ .badBroadcastIdAccess ∉ es := by
  have hinv : StateInv s := h.stateInv
  refine ⟨fun a s' out hs => hinv.stateMoves (moves_of_step hs), fun hmem => ?_, fun hon => ?_, ?_⟩
  · rcases hinv.not_online (h.stopCall_of_stopStored hmem) with hst | hst <;> simp [hst]
  · have hall := hinv.online (World.isOnline_iff.mpr hon)
    exact ⟨hall.video (by omega), hall.peer (by omega), (hall.feed le_rfl).2, (hall.feed le_rfl).1⟩
  · refine (Machine.Run.induction_on_trace (I := fun _ es s => StateInv s ∧
      .uninitializedVideoCapturer ∉ es ∧ .badBroadcastIdAccess ∉ es)
      ⟨stateInv_init title rating gameId, by simp, by simp⟩ ?_ h).2
    rintro - es s a s' out ⟨hi, hv, hb⟩ hs
    have hmoves := moves_of_step hs
    obtain ⟨hv', hb'⟩ := hi.no_undefined hmoves
    exact ⟨hi.moves hmoves, by simp [hv, hv'], by simp [hb, hb']⟩

end

/-! ## A broadcast that goes live -/

/-- The steps of a broadcast up to the answer to its `AddFeed`. -/
def feedActions : List Action :=
  [.start, .encoderInfo false] ++ List.replicate 7 (.thread .success) ++
  [.serveThread, .thread (.feed (some ⟨none, some "broadcast", some "https://stream"⟩))]

/-- The steps after these up to its `StartBroadcast`. -/
def readyActions : List Action :=
  List.replicate 8 (.thread .success) ++
  [.sendVideo 0 1280 720, .call 0 .success, .stageUpdate true false] ++
  List.replicate 4 (.thread .success)

/-- The steps of a broadcast up to the answer to its `StartBroadcast`. -/
def startActions (payload : Option StartPayload) : List Action :=
  feedActions ++ readyActions ++ [.serveThread, .thread (.start payload)]

/-- The steps of a broadcast that goes live. -/
def liveActions : List Action :=
  startActions (some { hasError := false, live := true }) ++ [.thread .success]

/-- Executing actions on a new broadcast gives a run of it. -/
theorem exists_runs_of_exec {title gameId : Bytes} {rating : Rating} {l : List Action}
    {P : World → List Event → Prop}
    (h : ∃ s es, broadcastMachine.exec (World.init title rating gameId) l = some (s, es) ∧ P s es) :
    ∃ tr es s, Runs title rating gameId tr es s ∧ tr.map Prod.snd = l ∧ P s es := by
  obtain ⟨s, es, hexec, hP⟩ := h
  obtain ⟨tr, hrun, htr⟩ := Machine.Run.exists_of_exec hexec
  exact ⟨tr, es, s, hrun, htr, hP⟩

/-- The members of a broadcast that has gone live are assigned. -/
theorem state_of_broadcast_liveActions :
    ∃ tr es s, Runs [] .none [] tr es s ∧ tr.map Prod.snd = liveActions ∧ s.state = .live ∧
      s.videoCapturer = true ∧ s.peerConnection = true ∧ s.streamUrl.isSome = true ∧
        s.broadcastId.isSome = true := by
  obtain ⟨tr, es, s, hrun, htr, hlive⟩ :=
    exists_runs_of_exec (P := fun s _ => s.state = .live) (l := liveActions)
      ⟨_, _, rfl, rfl⟩
  exact ⟨tr, es, s, hrun, htr, hlive, (state_of_broadcast hrun).2.2.1 (.inr hlive)⟩

end Caff
