/-
# What one step of a broadcast can do

`ThreadMoves` lists the ways the broadcast thread can go on, with the guard of
each, and `OtherMoves` those of everything else that runs on a broadcast.  `Moves`
keeps of the latter what most invariants need.
The later files reason by cases over these lists and do not look at the step
functions again.
-/
import Caffeine.Broadcast

namespace Caff

open Machine (holds_of_some holds_of_guard holds_of_ite)
open Publication (Stamped)

/-- The thread has been created and is neither through nor dead. -/
def Thread.running : Thread → Bool
  | .notCreated | .finished | .aborted => false
  | _ => true

/-- The thread is in a call to the outside, which may throw. -/
def Thread.waits : Thread → Bool
  | .stage _ | .addFeed _ | .startBroadcast _ | .heartbeat _ | .updateFeed _
  | .stopBroadcast => true
  | _ => false

/-- What is still seen of that call. -/
def World.abortEvents (s : World) : List Event :=
  match s.thread with
  | .stage p => p.access s
  | .heartbeat _ => [.heartbeat]
  | .stopBroadcast => [.stopBroadcast]
  | _ => []

/-! ## The broadcast thread -/

/-- The `AddFeed` mutation brought a feed. -/
def feedSucceeded (payload : Option AddFeedPayload) : Bool :=
  match payload with
  | some ⟨none, some _, some _⟩ => true
  | _ => false

/-- The ways the broadcast thread can go on from `s`, with the answer it goes on with. -/
inductive ThreadMoves (s : World) : Outcome → World → List Event → Prop
  | advance (p : Stage) (hs : s.thread = .stage p) (hok : p.canSucceed s = true) :
      ThreadMoves s .success ((p.assign s).goto p.next) (p.access s)
  | giveUp (o : Outcome) (p : Stage) (error : Result) (exit : Thread) (hs : s.thread = .stage p)
      (ho : o = .failure ∨ o = .raised) (hg : p.giveUp = some (error, exit)) :
      ThreadMoves s o (s.goto exit) (p.access s ++ [.failureReported .broadcastThread error])
  | enterFeed (hs : s.thread = .requireStarting) (hstate : s.state = .starting) :
      ThreadMoves s .success (s.goto .readFeedInput) []
  | refuseFeed (hs : s.thread = .requireStarting) (hstate : s.state ≠ .starting) :
      ThreadMoves s .success (s.goto .finished) [.failureReported .broadcastThread .broadcastFailed]
  | sendFeed (hs : s.thread = .readFeedInput) :
      ThreadMoves s .success
        (({ s with gameOpened := some s.gameVersion }).request (.addFeed s.currentGame)) []
  | feedAdded (x : Stamped (Option Bytes)) (id url : String) (hs : s.thread = .addFeed x)
      (hserved : s.threadServed = true) :
      ThreadMoves s (.feed (some ⟨none, some id, some url⟩))
        (({ s with broadcastId := some id, streamUrl := some url }).goto
          (.stage .createRemoteDescription)) []
  | feedFailed (x : Stamped (Option Bytes)) (payload : Option AddFeedPayload)
      (id : Option String) (error : Result) (hs : s.thread = .addFeed x)
      (hpayload : feedSucceeded payload = false) (hid : s.broadcastId.isSome → id.isSome) :
      ThreadMoves s (.feed payload) (({ s with broadcastId := id }).goto .finished)
        [.failureReported .broadcastThread error]
  | goStreaming (hs : s.thread = .goStreaming) (hstate : s.state = .starting) :
      ThreadMoves s .success (({ s with state := .streaming }).goto .startedCallback) []
  | missStreaming (hs : s.thread = .goStreaming) (hstate : s.state ≠ .starting) :
      ThreadMoves s .success (s.goto .finished) []
  | callStarted (hs : s.thread = .startedCallback) :
      ThreadMoves s .success (s.goto .requireStreaming) [.startedCallback]
  | enterHeartbeat (hs : s.thread = .requireStreaming) (hstate : s.state = .streaming) :
      ThreadMoves s .success (s.goto (.stage .awaitScreenshot)) []
  | refuseHeartbeat (hs : s.thread = .requireStreaming) (hstate : s.state ≠ .streaming) :
      ThreadMoves s .success (s.goto .releaseStatsObserver) []
  | sendTitle (hs : s.thread = .readTitle) :
      ThreadMoves s .success
        (({ s with titleOpened := some s.titleVersion }).request (.startBroadcast s.fullTitle)) []
  | startAnswered (x : Stamped Bytes) (payload : Option StartPayload)
      (hs : s.thread = .startBroadcast x) (hserved : payload.isSome → s.threadServed = true) :
      ThreadMoves s (.start payload) (s.goto (.goLive payload)) (s.startAnswered payload).2
  | goLive (payload : Option StartPayload) (hs : s.thread = .goLive payload)
      (hstate : s.state = .streaming) :
      ThreadMoves s .success (({ s with state := .live }).goto (.loopTest heartbeatInterval 0))
        [.wentLive]
  | missLive (payload : Option StartPayload) (hs : s.thread = .goLive payload)
      (hstate : s.state ≠ .streaming) :
      ThreadMoves s .success (s.goto .stopBroadcast) []
  | sleepOn (interval failures : ℕ) (hs : s.thread = .loopTest interval failures)
      (hstate : s.state = .live) (hi : interval + checkInterval < heartbeatInterval) :
      ThreadMoves s .success (s.goto (.loopSleep (interval + checkInterval) failures))
        [.heartbeatIteration]
  | beat (interval failures : ℕ) (hs : s.thread = .loopTest interval failures)
      (hstate : s.state = .live) (hi : ¬ interval + checkInterval < heartbeatInterval) :
      ThreadMoves s .success (s.goto (.heartbeat failures)) [.heartbeatIteration]
  | leaveLoop (interval failures : ℕ) (hs : s.thread = .loopTest interval failures)
      (hstate : s.state ≠ .live) :
      ThreadMoves s .success (s.goto .afterLoop) []
  | beatAnswered (failures : ℕ) (quality : ConnectionQuality)
      (hs : s.thread = .heartbeat failures) :
      ThreadMoves s (.heartbeat (some quality)) (s.goto (.storeQuality quality)) [.heartbeat]
  | beatFailed (failures : ℕ) (hs : s.thread = .heartbeat failures)
      (hf : ¬ failures + 1 > maxFailures) :
      ThreadMoves s (.heartbeat none) (s.goto (.loopSleep 0 (failures + 1))) [.heartbeat]
  | disconnect (failures : ℕ) (hs : s.thread = .heartbeat failures)
      (hf : failures + 1 > maxFailures) :
      ThreadMoves s (.heartbeat none) (s.goto .afterLoop)
        [.heartbeat, .failureReported .broadcastThread .disconnected]
  | newQuality (quality : ConnectionQuality) (hs : s.thread = .storeQuality quality)
      (hq : quality ≠ s.connectionQuality) :
      ThreadMoves s .success (({ s with connectionQuality := quality }).goto .readFeed) []
  | sameQuality (quality : ConnectionQuality) (hs : s.thread = .storeQuality quality)
      (hq : quality = s.connectionQuality) :
      ThreadMoves s .success (s.goto (.loopSleep 0 0)) []
  | sendUpdate (hs : s.thread = .readFeed) :
      ThreadMoves s .success (s.request (.updateFeed s.currentGame)) []
  | updateAnswered (x : Stamped (Option Bytes)) (hs : s.thread = .updateFeed x)
      (hserved : s.threadServed = true) :
      ThreadMoves s .success (s.goto (.loopSleep 0 0)) []
  | updateFailed (x : Stamped (Option Bytes)) (hs : s.thread = .updateFeed x) :
      ThreadMoves s .failure (s.goto .releaseStatsObserver)
        [.failureReported .broadcastThread .broadcastFailed]
  | wake (interval failures : ℕ) (hs : s.thread = .loopSleep interval failures) :
      ThreadMoves s .success (s.goto (.loopTest interval failures)) []
  | stopAfterLoop (hs : s.thread = .afterLoop) (hstate : s.state = .stopping) :
      ThreadMoves s .success (s.goto .stopBroadcast) []
  | endAfterLoop (hs : s.thread = .afterLoop) (hstate : s.state ≠ .stopping) :
      ThreadMoves s .success (s.goto .releaseStatsObserver) []
  | stopAnswered (o : Outcome) (hs : s.thread = .stopBroadcast) :
      ThreadMoves s o (s.goto .releaseStatsObserver) [.stopBroadcast]
  | release (hs : s.thread = .releaseStatsObserver) :
      ThreadMoves s .success (({ s with statsObserver := false }).goto .finished) []
  | abort (hs : s.thread.waits = true) :
      ThreadMoves s .raised (s.goto .aborted) s.abortEvents

section

variable {s s' : World} {o : Outcome} {out : List Event}

theorem ThreadMoves.of_abort (hs : s.thread.waits = true) (hout : out = s.abortEvents) :
    ThreadMoves s .raised (s.goto .aborted) out := by
  rw [hout]
  exact .abort hs

theorem threadMoves_of_stageStep {p : Stage} (hs : s.thread = .stage p)
    (h : s.stageStep p o = some (s', out)) : ThreadMoves s o s' out := by
  rw [World.stageStep.eq_def] at h
  split at h
  · exact holds_of_guard h fun hok => .advance p hs hok
  · split at h
    · rename_i error exit hg
      exact holds_of_guard h fun _ => .giveUp _ p error exit hs (.inl rfl) hg
    · cases h
  · -- an exception ends as a failure only inside of the `try` of the stage
    split at h
    · rename_i error exit hg hc
      exact holds_of_some h (.giveUp _ p error exit hs (.inr rfl) hg)
    · exact holds_of_some h (.of_abort (by rw [hs]; rfl) (by rw [World.abortEvents, hs]))
  · cases h

theorem threadMoves_of_feedAnswered {x : Stamped (Option Bytes)} {payload : Option AddFeedPayload}
    (hs : s.thread = .addFeed x) (hserved : payload.isSome → s.threadServed = true) :
    ThreadMoves s (.feed payload) (s.feedAnswered payload).1 (s.feedAnswered payload).2 := by
  rcases payload with _ | ⟨(_ | (_ | _)), (_ | id), (_ | url)⟩
  case some.none.some.some => exact .feedAdded x id url hs (hserved rfl)
  case some.none.some.none => exact .feedFailed x _ (some id) _ hs rfl fun _ => rfl
  all_goals exact .feedFailed x _ s.broadcastId _ hs rfl fun h => h

theorem threadMoves_of_loopTested {interval failures : ℕ}
    (hs : s.thread = .loopTest interval failures) :
    ThreadMoves s .success (s.loopTested interval failures).1
      (s.loopTested interval failures).2 := by
  unfold World.loopTested
  by_cases hstate : s.state = .live
  · rw [if_pos hstate]
    by_cases hi : interval + checkInterval < heartbeatInterval
    · rw [if_pos hi]
      exact .sleepOn interval failures hs hstate hi
    · rw [if_neg hi]
      exact .beat interval failures hs hstate hi
  · rw [if_neg hstate]
    exact .leaveLoop interval failures hs hstate

theorem threadMoves_of_heartbeatAnswered {failures : ℕ} {response : Option ConnectionQuality}
    (hs : s.thread = .heartbeat failures) :
    ThreadMoves s (.heartbeat response) (s.heartbeatAnswered failures response).1
      (s.heartbeatAnswered failures response).2 := by
  rw [World.heartbeatAnswered.eq_def]
  rcases response with _ | quality
  · by_cases hf : failures + 1 > maxFailures
    · simp only [if_pos hf]
      exact .disconnect failures hs hf
    · simp only [if_neg hf]
      exact .beatFailed failures hs hf
  · exact .beatAnswered failures quality hs

/-- **Inversion of a step of the thread.** -/
theorem threadMoves_of_threadStep (h : s.threadStep o = some (s', out)) :
    ThreadMoves s o s' out := by
  rw [World.threadStep.eq_def] at h
  split at h
  case h_1 p _ hs => exact threadMoves_of_stageStep hs h
  -- `createFeed`
  case h_2 hs => exact holds_of_ite h (fun hc => .enterFeed hs hc) fun hc => .refuseFeed hs hc
  case h_3 hs => exact holds_of_some h (.sendFeed hs)
  case h_4 hs => exact holds_of_guard h fun hc => threadMoves_of_feedAnswered hs hc
  case h_5 hs =>
    exact holds_of_some h (.of_abort (by rw [hs]; rfl) (by rw [World.abortEvents, hs]))
  -- the end of the body of `start`
  case h_6 hs => exact holds_of_ite h (fun hc => .goStreaming hs hc) fun hc => .missStreaming hs hc
  case h_7 hs => exact holds_of_some h (.callStarted hs)
  -- `startHeartbeat` up to its loop
  case h_8 hs =>
    exact holds_of_ite h (fun hc => .enterHeartbeat hs hc) fun hc => .refuseHeartbeat hs hc
  case h_9 hs => exact holds_of_some h (.sendTitle hs)
  case h_10 hs => exact holds_of_guard h fun hc => .startAnswered _ _ hs hc
  case h_11 hs =>
    exact holds_of_some h (.of_abort (by rw [hs]; rfl) (by rw [World.abortEvents, hs]))
  case h_12 hs => exact holds_of_ite h (fun hc => .goLive _ hs hc) fun hc => .missLive _ hs hc
  -- its loop
  case h_13 hs => exact holds_of_some h (threadMoves_of_loopTested hs)
  case h_14 hs => exact holds_of_some h (threadMoves_of_heartbeatAnswered hs)
  case h_15 hs =>
    exact holds_of_some h (.of_abort (by rw [hs]; rfl) (by rw [World.abortEvents, hs]))
  case h_16 hs =>
    exact holds_of_ite h (fun hc => .newQuality _ hs hc) fun hc => .sameQuality _ hs (not_not.mp hc)
  case h_17 hs => exact holds_of_some h (.sendUpdate hs)
  case h_18 hs => exact holds_of_guard h fun hc => .updateAnswered _ hs hc
  case h_19 hs => exact holds_of_some h (.updateFailed _ hs)
  case h_20 hs =>
    exact holds_of_some h (.of_abort (by rw [hs]; rfl) (by rw [World.abortEvents, hs]))
  case h_21 hs => exact holds_of_some h (.wake _ _ hs)
  -- behind the loop
  case h_22 hs =>
    exact holds_of_ite h (fun hc => .stopAfterLoop hs hc) fun hc => .endAfterLoop hs hc
  case h_23 hs => exact holds_of_some h (.stopAnswered _ hs)
  case h_24 hs => exact holds_of_some h (.stopAnswered _ hs)
  case h_25 hs =>
    exact holds_of_some h (.of_abort (by rw [hs]; rfl) (by rw [World.abortEvents, hs]))
  case h_26 hs => exact holds_of_some h (.release hs)
  case h_27 => cases h

end

/-- The thread leaves the calls and the progress of `start` and `stop` alone. -/
theorem ThreadMoves.calls_eq {s s' : World} {o : Outcome} {out : List Event}
    (h : ThreadMoves s o s' out) : s'.calls = s.calls := by
  cases h with
  | advance p hs hok => cases p <;> rfl
  | _ => rfl

theorem ThreadMoves.startCall_eq {s s' : World} {o : Outcome} {out : List Event}
    (h : ThreadMoves s o s' out) : s'.startCall = s.startCall := by
  cases h with
  | advance p hs hok => cases p <;> rfl
  | _ => rfl

theorem ThreadMoves.stopCall_eq {s s' : World} {o : Outcome} {out : List Event}
    (h : ThreadMoves s o s' out) : s'.stopCall = s.stopCall := by
  cases h with
  | advance p hs hok => cases p <;> rfl
  | _ => rfl

/-- The broadcast thread makes the event. -/
def Event.ofThread : Event → Bool
  | .failureReported reporter _ => reporter = .broadcastThread
  | .uninitializedVideoCapturer | .stopStored | .joined | .stopReturned => false
  | _ => true

theorem Stage.ofThread_access (s : World) (p : Stage) : ∀ e ∈ p.access s, e.ofThread = true := by
  intro e he
  cases p <;> simp only [Stage.access, List.not_mem_nil] at he
  split at he
  · cases he
  · rw [List.mem_singleton.mp he]
    rfl

/-- What the answer to `StartBroadcast` shows: itself, and one failure if it is not
successful, after an access to an error that is not there if it has none. -/
theorem startAnswered_events (s : World) (payload : Option StartPayload) :
    (s.startAnswered payload).2 = [.startBroadcast payload] ∧ startSucceeded payload = true ∨
    (s.startAnswered payload).2 = [.startBroadcast payload,
        .failureReported .broadcastThread .broadcastFailed] ∧
      startSucceeded payload = false ∧ payload ≠ some ⟨false, false⟩ ∨
    (s.startAnswered payload).2 = [.startBroadcast payload, .undefinedErrorAccess,
        .failureReported .broadcastThread .broadcastFailed] ∧
      payload = some ⟨false, false⟩ := by
  rcases payload with _ | ⟨_ | _, _ | _⟩ <;> simp [World.startAnswered, startSucceeded]

theorem ofThread_startAnswered (s : World) (payload : Option StartPayload) :
    ∀ e ∈ (s.startAnswered payload).2, e.ofThread = true := by
  intro e he
  rcases startAnswered_events s payload with ⟨h, -⟩ | ⟨h, -⟩ | ⟨h, -⟩
  all_goals
    rw [h] at he
    simp only [List.mem_cons, List.not_mem_nil, or_false] at he
  · rw [he]
    rfl
  · rcases he with rfl | rfl <;> rfl
  · rcases he with rfl | rfl | rfl <;> rfl

/-- What the thread shows are events of the thread. -/
theorem ThreadMoves.ofThread {s s' : World} {o : Outcome} {out : List Event}
    (h : ThreadMoves s o s' out) : ∀ e ∈ out, e.ofThread = true := by
  intro e he
  cases h with
  | advance p hs hok => exact p.ofThread_access s e he
  | giveUp o p error exit hs ho hg =>
      rcases List.mem_append.mp he with he | he
      · exact p.ofThread_access s e he
      · rw [List.mem_singleton.mp he]
        rfl
  | startAnswered x payload hs hserved => exact ofThread_startAnswered s payload e he
  | abort hs =>
      unfold World.abortEvents at he
      split at he
      · exact Stage.ofThread_access s _ e he
      · rw [List.mem_singleton.mp he]
        rfl
      · rw [List.mem_singleton.mp he]
        rfl
      · cases he
  | disconnect failures hs hf =>
      simp only [List.mem_cons, List.not_mem_nil, or_false] at he
      rcases he with rfl | rfl <;> rfl
  | _ =>
      first
        | cases he; done
        | (rw [List.mem_singleton.mp he]; rfl)

/-! ## Everything else -/

/-- The members, threads and calls a step leaves alone that is neither of the
broadcast thread nor of `start` or `stop`. -/
structure SameCore (s s' : World) : Prop where
  state : s'.state = s.state
  broadcastId : s'.broadcastId = s.broadcastId
  streamUrl : s'.streamUrl = s.streamUrl
  videoCapturer : s'.videoCapturer = s.videoCapturer
  peerConnection : s'.peerConnection = s.peerConnection
  startCall : s'.startCall = s.startCall
  thread : s'.thread = s.thread
  stopCall : s'.stopCall = s.stopCall

/-- What such a step can show: failures found by others than the broadcast thread,
and a frame call that finds no capturer. -/
def Elsewhere (s : World) : Event → Prop
  | .failureReported reporter _ => reporter ≠ .broadcastThread
  | .uninitializedVideoCapturer =>
      s.videoCapturer = false ∧ ∃ i, s.calls i = .sendingVideo
  | _ => False

/-- The ways a call goes on by itself. -/
inductive CallMoves (s : World) (i : ℕ) (o : Outcome) : Call → Prop
  | dropTitle (n : ℕ) (hi : s.calls i = .titleStored n) (hstate : s.state ≠ .live) :
      CallMoves s i o .idle
  | goPublishTitle (n : ℕ) (hi : s.calls i = .titleStored n) : CallMoves s i o .titleReading
  | sendTitle (hi : s.calls i = .titleReading) : CallMoves s i o (.titleSent s.fullTitle false)
  | titleAnswered (x : Stamped Bytes) (served : Bool) (hi : s.calls i = .titleSent x served)
      (ho : o = .success → served = true) : CallMoves s i o .idle
  | dropGame (n : ℕ) (hi : s.calls i = .gameStored n) (hstate : s.isOnline = false) :
      CallMoves s i o .idle
  | goPublishGame (n : ℕ) (hi : s.calls i = .gameStored n) : CallMoves s i o .feedReading
  | sendGame (hi : s.calls i = .feedReading) :
      CallMoves s i o (.feedSent s.currentGame s.connectionQuality false)
  | feedAnswered (x : Stamped (Option Bytes)) (quality : ConnectionQuality) (served : Bool)
      (hi : s.calls i = .feedSent x quality served) (ho : o = .success → served = true) :
      CallMoves s i o .idle

/-- The ways the others can go on from `s`. -/
inductive OtherMoves (s : World) : Action → World → List Event → Prop
  | start (hc : s.startCall = .notCalled) :
      OtherMoves s .start
        { s with
          state := if s.state = .offline then .starting else s.state
          startCall := .awaitingEncoderInfo } []
  | createThread (hc : s.startCall = .awaitingEncoderInfo) :
      OtherMoves s (.encoderInfo false)
        { s with startCall := .returned, thread := .stage .setupSubscription } []
  | raise (hc : s.startCall = .awaitingEncoderInfo) :
      OtherMoves s (.encoderInfo true) { s with startCall := .raised } []
  | serveStart (x : Stamped Bytes) (hs : s.thread = .startBroadcast x)
      (hserved : s.threadServed = false) :
      OtherMoves s .serveThread { s with threadServed := true, stageTitle := some x } []
  | serveFeed (x : Stamped (Option Bytes)) (hs : s.thread = .addFeed x ∨ s.thread = .updateFeed x)
      (hserved : s.threadServed = false) :
      OtherMoves s .serveThread { s with threadServed := true, feedGame := some x } []
  | setTitle (i : ℕ) (title : Bytes) (hi : s.calls i = .idle) :
      OtherMoves s (.setTitle i title)
        (({ s with title, titleVersion := s.titleVersion + 1 }).setCall i
          (.titleStored (s.titleVersion + 1))) []
  | setRating (i : ℕ) (rating : Rating) (hi : s.calls i = .idle) :
      OtherMoves s (.setRating i rating)
        (({ s with rating, titleVersion := s.titleVersion + 1 }).setCall i
          (.titleStored (s.titleVersion + 1))) []
  | setGameId (i : ℕ) (gameId : Bytes) (hi : s.calls i = .idle) :
      OtherMoves s (.setGameId i gameId)
        (({ s with gameId, gameVersion := s.gameVersion + 1 }).setCall i
          (.gameStored (s.gameVersion + 1))) []
  | sendVideo (i : ℕ) (width height : ℤ) (hi : s.calls i = .idle) (honline : s.isOnline = true) :
      OtherMoves s (.sendVideo i width height) (s.setCall i .sendingVideo) []
  | call (i : ℕ) (o : Outcome) (c : Call) (hmoves : CallMoves s i o c) :
      OtherMoves s (.call i o) (s.setCall i c) []
  | frame (i : ℕ) (o : Outcome) {out : List Event} (hi : s.calls i = .sendingVideo)
      (hout : ∀ e ∈ out, Elsewhere s e) : OtherMoves s (.call i o) (s.setCall i .idle) out
  | screenshot (i : ℕ) (o : Outcome) (taken : Screenshot) {out : List Event}
      (hi : s.calls i = .sendingVideo) (hout : ∀ e ∈ out, Elsewhere s e) :
      OtherMoves s (.call i o)
        (({ s with isScreenshotNeeded := false, screenshot := taken }).setCall i .idle) out
  | serveTitle (i : ℕ) (x : Stamped Bytes) (hi : s.calls i = .titleSent x false) :
      OtherMoves s (.serveCall i)
        (({ s with stageTitle := some x }).setCall i (.titleSent x true)) []
  | serveGame (i : ℕ) (x : Stamped (Option Bytes)) (quality : ConnectionQuality)
      (hi : s.calls i = .feedSent x quality false) :
      OtherMoves s (.serveCall i)
        (({ s with feedGame := some x }).setCall i (.feedSent x quality true)) []
  | storeStopping (hc : s.stopCall = .notCalled) (hr : s.reachable = true) :
      OtherMoves s .stop { s with state := .stopping, stopCall := .joining } [.stopStored]
  | join (hc : s.stopCall = .joining) (hj : s.canJoin = true) :
      OtherMoves s .stop { s with stopCall := .joined } [.joined]
  | storeOffline (hc : s.stopCall = .joined) :
      OtherMoves s .stop { s with state := .offline, stopCall := .returned } [.stopReturned]
  | stageUpdate (feedIsOnStage live : Bool) (st : SubscriptionState) (opened : Bool)
      {out : List Event} (hout : ∀ e ∈ out, Elsewhere s e) :
      OtherMoves s (.stageUpdate feedIsOnStage live)
        { s with subscriptionState := st, subscriptionOpened := opened } out
  | nothing (a : Action) {out : List Event} (ha : ∀ o, a ≠ .thread o)
      (hout : ∀ e ∈ out, Elsewhere s e) : OtherMoves s a s out

/-- What one step can do. -/
inductive Moves (s : World) : Action → World → List Event → Prop
  | thread {o : Outcome} {s' : World} {out : List Event} (h : ThreadMoves s o s' out) :
      Moves s (.thread o) s' out
  | start (hc : s.startCall = .notCalled) :
      Moves s .start
        { s with
          state := if s.state = .offline then .starting else s.state
          startCall := .awaitingEncoderInfo } []
  | createThread (hc : s.startCall = .awaitingEncoderInfo) :
      Moves s (.encoderInfo false)
        { s with startCall := .returned, thread := .stage .setupSubscription } []
  | raise (hc : s.startCall = .awaitingEncoderInfo) :
      Moves s (.encoderInfo true) { s with startCall := .raised } []
  | storeStopping (hc : s.stopCall = .notCalled) (hr : s.reachable = true) :
      Moves s .stop { s with state := .stopping, stopCall := .joining } [.stopStored]
  | join (hc : s.stopCall = .joining) (hj : s.canJoin = true) :
      Moves s .stop { s with stopCall := .joined } [.joined]
  | storeOffline (hc : s.stopCall = .joined) :
      Moves s .stop { s with state := .offline, stopCall := .returned } [.stopReturned]
  | other (a : Action) {s' : World} {out : List Event} (ha : ∀ o, a ≠ .thread o)
      (hcore : SameCore s s')
      (hvideo : ∀ i, s'.calls i = .sendingVideo → s.calls i = .sendingVideo ∨ s.isOnline = true)
      (hout : ∀ e ∈ out, Elsewhere s e) : Moves s a s' out

section

variable {s s' : World} {a : Action} {o : Outcome} {out : List Event} {i : ℕ}

theorem SameCore.of_setCall {c : Call} (h : SameCore s s') : SameCore s (s'.setCall i c) :=
  ⟨h.state, h.broadcastId, h.streamUrl, h.videoCapturer, h.peerConnection, h.startCall, h.thread,
    h.stopCall⟩

theorem sameCore_refl : SameCore s s := ⟨rfl, rfl, rfl, rfl, rfl, rfl, rfl, rfl⟩

/-- A step that moves call `i` on to something else than a frame. -/
theorem Moves.of_setCall {c : Call} (ha : ∀ o, a ≠ .thread o) (hcore : SameCore s s')
    (hcalls : s'.calls = s.calls) (hc : c ≠ .sendingVideo) (hout : ∀ e ∈ out, Elsewhere s e) :
    Moves s a (s'.setCall i c) out := by
  refine .other a ha hcore.of_setCall (fun j hj => .inl ?_) hout
  by_cases hji : j = i
  · rw [hji, World.setCall_calls_self] at hj
    exact absurd hj hc
  · rwa [World.setCall_calls_of_ne s' c hji, hcalls] at hj

/-- A step that leaves the calls alone as well. -/
theorem Moves.of_same (ha : ∀ o, a ≠ .thread o) (hcore : SameCore s s')
    (hcalls : s'.calls = s.calls) (hout : ∀ e ∈ out, Elsewhere s e) : Moves s a s' out :=
  .other a ha hcore (fun _ hj => .inl (hcalls ▸ hj)) hout

theorem otherMoves_of_captureVideo (hi : s.calls i = .sendingVideo)
    (h : s.captureVideo i o = some (s', out)) : OtherMoves s (.call i o) s' out := by
  have hused : ∀ e ∈ (if s.videoCapturer then [] else [Event.uninitializedVideoCapturer]),
      Elsewhere s e := by
    intro e he
    split at he
    · cases he
    · rename_i hv
      rw [List.mem_singleton.mp he]
      exact ⟨by simpa using hv, i, hi⟩
  rw [World.captureVideo.eq_def] at h
  simp only at h
  split at h
  -- no frame
  case h_1 => exact holds_of_some h (.frame i _ hi hused)
  -- a frame, and the screenshot if one is needed
  case h_2 =>
    exact holds_of_ite h (fun _ => .screenshot i _ .value hi hused) fun _ => .frame i _ hi hused
  -- a screenshot that fails
  case h_3 => exact holds_of_guard h fun _ => .screenshot i _ .exception hi hused
  case h_4 => cases h

theorem otherMoves_of_callStep (h : s.callStep i o = some (s', out)) :
    OtherMoves s (.call i o) s' out := by
  rw [World.callStep.eq_def] at h
  split at h
  -- `setTitle` and `setRating` after their critical section
  case h_1 n hi =>
    by_cases hstate : s.state = .live
    · rw [if_pos hstate] at h
      exact holds_of_some h (.call i _ _ (.goPublishTitle n hi))
    · rw [if_neg hstate] at h
      exact holds_of_some h (.call i _ _ (.dropTitle n hi hstate))
  case h_2 hi => exact holds_of_some h (.call i _ _ (.sendTitle hi))
  case h_3 x served hi =>
    exact holds_of_guard h fun hserved => .call i _ _ (.titleAnswered x served hi fun _ => hserved)
  case h_4 x served hi => exact holds_of_some h (.call i _ _ (.titleAnswered x served hi (by simp)))
  case h_5 x served hi => exact holds_of_some h (.call i _ _ (.titleAnswered x served hi (by simp)))
  -- `setGameId` after its critical section
  case h_6 n hi =>
    by_cases honline : s.isOnline = true
    · rw [if_pos honline] at h
      exact holds_of_some h (.call i _ _ (.goPublishGame n hi))
    · rw [if_neg honline] at h
      exact holds_of_some h (.call i _ _ (.dropGame n hi (by simpa using honline)))
  case h_7 hi => exact holds_of_some h (.call i _ _ (.sendGame hi))
  case h_8 x quality served hi =>
    exact holds_of_guard h fun hserved =>
      .call i _ _ (.feedAnswered x quality served hi fun _ => hserved)
  case h_9 x quality served hi =>
    exact holds_of_some h (.call i _ _ (.feedAnswered x quality served hi (by simp)))
  case h_10 x quality served hi =>
    exact holds_of_some h (.call i _ _ (.feedAnswered x quality served hi (by simp)))
  case h_11 hi => exact otherMoves_of_captureVideo hi h
  case h_12 => cases h

/-- A stage update moves only what is known of the subscription. -/
theorem World.exists_subscriptionStep_eq (s : World) (feedIsOnStage live : Bool) :
    ∃ st opened, s.subscriptionStep feedIsOnStage live =
      { s with subscriptionState := st, subscriptionOpened := opened } := by
  unfold World.subscriptionStep
  dsimp only
  split_ifs <;> exact ⟨_, _, rfl⟩

theorem otherMoves_of_stageUpdate (feedIsOnStage live : Bool) :
    OtherMoves s (.stageUpdate feedIsOnStage live) (s.stageUpdate feedIsOnStage live).1
      (s.stageUpdate feedIsOnStage live).2 := by
  have htakeover : ∀ e ∈ [Event.failureReported .subscription .takeover], Elsewhere s e := by
    intro e he
    rw [List.mem_singleton.mp he]
    simp [Elsewhere]
  obtain ⟨st, opened, hstep⟩ := s.exists_subscriptionStep_eq feedIsOnStage live
  unfold World.stageUpdate
  rw [hstep]
  dsimp only
  split_ifs
  · exact .stageUpdate feedIsOnStage live st opened htakeover
  · exact .stageUpdate feedIsOnStage live st opened htakeover
  · exact .stageUpdate feedIsOnStage live st opened (by simp)

/-- **Inversion of a step of the others.** -/
theorem otherMoves_of_step (ha : ∀ o, a ≠ .thread o) (h : s.step a = some (s', out)) :
    OtherMoves s a s' out := by
  have hreport : ∀ reporter error, reporter ≠ .broadcastThread →
      ∀ e ∈ [Event.failureReported reporter error], Elsewhere s e := by
    intro reporter error hreporter e he
    rw [List.mem_singleton.mp he]
    exact hreporter
  cases a with
  | start =>
      rw [World.step, World.startStep.eq_def] at h
      split at h
      · rename_i hc
        exact holds_of_some h (.start hc)
      · cases h
  | encoderInfo raised =>
      rw [World.step, World.encoderInfoStep.eq_def] at h
      split at h
      · rename_i hc
        rcases raised with _ | _
        · exact holds_of_some h (.createThread hc)
        · exact holds_of_some h (.raise hc)
      · cases h
  | thread o => exact absurd rfl (ha o)
  | serveThread =>
      rw [World.step, World.serveThread.eq_def] at h
      split at h
      · cases h
      · rename_i hserved
        have hserved : s.threadServed = false := by simpa using hserved
        split at h
        case h_1 x hs => exact holds_of_some h (.serveFeed x (.inl hs) hserved)
        case h_2 x hs => exact holds_of_some h (.serveFeed x (.inr hs) hserved)
        case h_3 x hs => exact holds_of_some h (.serveStart x hs hserved)
        case h_4 => cases h
  | setTitle i title =>
      apply holds_of_guard h
      intro hcan
      rw [World.setTitle]
      split_ifs
      · exact .setTitle i title (of_decide_eq_true hcan).2
      · exact .nothing _ ha (by simp)
  | setRating i rating =>
      apply holds_of_guard h
      intro hcan
      rw [World.setRating]
      split_ifs
      · exact .setRating i rating (of_decide_eq_true hcan).2
      · exact .nothing _ ha (by simp)
  | setGameId i id =>
      apply holds_of_guard h
      intro hcan
      rw [World.setGameId]
      split_ifs
      · exact .setGameId i id (of_decide_eq_true hcan).2
      · exact .nothing _ ha (by simp)
  | sendVideo i width height =>
      apply holds_of_guard h
      intro hcan
      unfold World.sendVideo
      split
      · rename_i honline
        split
        · exact .sendVideo i width height (of_decide_eq_true hcan).2 honline
        · exact .nothing _ ha (hreport _ _ (by simp))
      · exact .nothing _ ha (by simp)
  | call i o => exact otherMoves_of_callStep h
  | serveCall i =>
      rw [World.step, World.serveCall.eq_def] at h
      split at h
      case h_1 x hi => exact holds_of_some h (.serveTitle i x hi)
      case h_2 x quality hi => exact holds_of_some h (.serveGame i x quality hi)
      case h_3 => cases h
  | stop =>
      rw [World.step, World.stopStep.eq_def] at h
      split at h
      case h_1 hc => exact holds_of_guard h fun hr => .storeStopping hc hr
      case h_2 hc => exact holds_of_guard h fun hj => .join hc hj
      case h_3 hc => exact holds_of_some h (.storeOffline hc)
      case h_4 => cases h
  | stageUpdate feedIsOnStage live =>
      exact holds_of_guard h fun _ => otherMoves_of_stageUpdate feedIsOnStage live
  | subscriptionErrors =>
      exact holds_of_guard h fun _ => .nothing _ ha (hreport _ _ (by simp))
  | iceConnectionFailed =>
      exact holds_of_guard h fun _ => .nothing _ ha (hreport _ _ (by simp))

theorem CallMoves.ne_sendingVideo {c : Call} (h : CallMoves s i o c) : c ≠ .sendingVideo := by
  cases h <;> simp

theorem OtherMoves.moves (h : OtherMoves s a s' out) : Moves s a s' out := by
  have hcore : SameCore s s := sameCore_refl
  cases h with
  | start hc => exact .start hc
  | createThread hc => exact .createThread hc
  | raise hc => exact .raise hc
  | storeStopping hc hr => exact .storeStopping hc hr
  | join hc hj => exact .join hc hj
  | storeOffline hc => exact .storeOffline hc
  | sendVideo i width height hi honline =>
      -- the call goes on to the capturer, and the broadcast is online
      exact .other _ (by simp) hcore.of_setCall (fun _ _ => .inr honline) (by simp)
  | call i o c hmoves => exact .of_setCall (by simp) hcore rfl hmoves.ne_sendingVideo (by simp)
  | frame i o hi hout => exact .of_setCall (by simp) hcore rfl (by simp) hout
  | screenshot i o taken hi hout =>
      exact .of_setCall (by simp) ⟨rfl, rfl, rfl, rfl, rfl, rfl, rfl, rfl⟩ rfl (by simp) hout
  | stageUpdate feedIsOnStage live st opened hout =>
      exact .of_same (by simp) ⟨rfl, rfl, rfl, rfl, rfl, rfl, rfl, rfl⟩ rfl hout
  | nothing a ha hout => exact .of_same ha hcore rfl hout
  | serveStart | serveFeed =>
      exact .of_same (by simp) ⟨rfl, rfl, rfl, rfl, rfl, rfl, rfl, rfl⟩ rfl (by simp)
  | setTitle | setRating | setGameId | serveTitle | serveGame =>
      exact .of_setCall (by simp) ⟨rfl, rfl, rfl, rfl, rfl, rfl, rfl, rfl⟩ rfl (by simp) (by simp)

theorem moves_of_stageUpdate (feedIsOnStage live : Bool) :
    Moves s (.stageUpdate feedIsOnStage live) (s.stageUpdate feedIsOnStage live).1
      (s.stageUpdate feedIsOnStage live).2 :=
  (otherMoves_of_stageUpdate feedIsOnStage live).moves

/-- **Inversion of a step.** -/
theorem moves_of_step (h : s.step a = some (s', out)) : Moves s a s' out := by
  by_cases ha : ∃ o, a = .thread o
  · obtain ⟨o, rfl⟩ := ha
    exact .thread (threadMoves_of_threadStep h)
  · exact (otherMoves_of_step (fun o ho => ha ⟨o, ho⟩) h).moves

/-- Only a running thread moves. -/
theorem ThreadMoves.running (h : ThreadMoves s o s' out) : s.thread.running = true := by
  cases h with
  | abort hs =>
      revert hs
      cases s.thread <;> simp [Thread.waits, Thread.running]
  | _ => simp [*, Thread.running]

/-- Only `stop` moves the call of `stop`. -/
theorem Moves.stopCall_eq (h : Moves s a s' out) (ha : a ≠ .stop) :
    s'.stopCall = s.stopCall := by
  cases h with
  | thread hthread => exact hthread.stopCall_eq
  | other a _ hcore hvideo hout => exact hcore.stopCall
  | storeStopping hc hr => exact absurd rfl ha
  | join hc hj => exact absurd rfl ha
  | storeOffline hc => exact absurd rfl ha
  | _ => rfl

/-- `stop` does not come back twice. -/
theorem Moves.stopCall_of_returned (h : Moves s a s' out) (hs : s.stopCall = .returned) :
    s'.stopCall = .returned := by
  cases h with
  | thread hthread => rw [hthread.stopCall_eq, hs]
  | other a _ hcore hvideo hout => rw [hcore.stopCall, hs]
  | storeStopping hc hr => rw [hs] at hc; cases hc
  | join hc hj => rw [hs] at hc; cases hc
  | storeOffline hc => rfl
  | _ => exact hs

/-- `stopReturned` is seen when `stop` returns. -/
theorem Moves.stop_of_stopReturned (h : Moves s a s' out) (hmem : .stopReturned ∈ out) :
    a = .stop ∧ s'.stopCall = .returned := by
  cases h with
  | thread hthread => exact absurd (hthread.ofThread _ hmem) (by decide)
  | other a _ hcore hvideo hout => exact absurd (hout _ hmem) id
  | storeOffline hc => exact ⟨rfl, rfl⟩
  | _ => simp at hmem

/-! ## The events of the thread -/

/-- What is seen of the broadcast thread. -/
def threadEvents (es : List Event) : List Event := es.filter Event.ofThread

theorem mem_threadEvents_iff {es : List Event} {e : Event} (he : e.ofThread = true) :
    e ∈ threadEvents es ↔ e ∈ es := by
  rw [threadEvents, List.mem_filter, he, and_iff_left rfl]

/-- What is seen elsewhere is nothing of the thread. -/
theorem Elsewhere.ofThread_eq_false {e : Event} (h : Elsewhere s e) : e.ofThread = false := by
  cases e with
  | failureReported reporter error => exact decide_eq_false h
  | uninitializedVideoCapturer => rfl
  | _ => exact absurd h id

/-- **A step is one of the thread or none the thread notices**, but for its creation. -/
theorem Moves.cases_thread (h : Moves s a s' out) :
    (∃ o, a = .thread o ∧ ThreadMoves s o s' out ∧
      ∀ es, threadEvents (es ++ out) = threadEvents es ++ out) ∨
    ((∀ o, a ≠ .thread o) ∧ (∀ es, threadEvents (es ++ out) = threadEvents es) ∧
      (s'.thread = s.thread ∨
        s.startCall = .awaitingEncoderInfo ∧ s'.thread = .stage .setupSubscription)) := by
  have hnone : (∀ e ∈ out, e.ofThread = false) →
      ∀ es, threadEvents (es ++ out) = threadEvents es := by
    intro hout es
    have hfilter : out.filter Event.ofThread = [] :=
      List.filter_eq_nil_iff.mpr fun e he => by simp [hout e he]
    rw [threadEvents, List.filter_append, hfilter, List.append_nil, threadEvents]
  cases h with
  | thread hthread =>
      refine .inl ⟨_, rfl, hthread, fun es => ?_⟩
      rw [threadEvents, List.filter_append, List.filter_eq_self.mpr hthread.ofThread, threadEvents]
  | start hc => exact .inr ⟨by simp, hnone (by simp), .inl rfl⟩
  | createThread hc => exact .inr ⟨by simp, hnone (by simp), .inr ⟨hc, rfl⟩⟩
  | raise hc => exact .inr ⟨by simp, hnone (by simp), .inl rfl⟩
  | storeStopping hc hr => exact .inr ⟨by simp, hnone (by simp [Event.ofThread]), .inl rfl⟩
  | join hc hj => exact .inr ⟨by simp, hnone (by simp [Event.ofThread]), .inl rfl⟩
  | storeOffline hc => exact .inr ⟨by simp, hnone (by simp [Event.ofThread]), .inl rfl⟩
  | other a ha hcore hvideo hout =>
      exact .inr ⟨ha, hnone fun e he => (hout e he).ofThread_eq_false, .inl hcore.thread⟩

end

end Caff
