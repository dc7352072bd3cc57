/-
# A broadcast and its threads

The class `Broadcast` of `src/Broadcast.cpp` as a machine.  A `World` holds the
members of one broadcast, a program counter for everything that runs on it (the
application's call of `start`, the broadcast thread, the call of `stop`, and any
number of setter and frame calls), and the stage on the server.  An input of the
machine lets one of these take its next step, and carries what the outside
answers in that step.  So a run of the machine is an interleaving.

One step does at most one access to what the threads share: a critical section,
an access to the atomic `state`, or the issue or the answer of a request.  What a
thread does on its own in between belongs to the step before it.  An exception
that leaves the body of the broadcast thread ends the process; the thread then
stays at `aborted`.

The version numbers are auxiliary: they count the stores to the title and to the
game, and no step depends on them.
-/
import Caffeine.Library.Machine
import Caffeine.Library.Publication
import Caffeine.Policy

namespace Caff

open Publication (Stamped)

/-! ## Members -/

/-- `Broadcast::State`. -/
inductive State
  | offline
  | starting
  | streaming
  | live
  | stopping
  deriving DecidableEq, Repr

/-- `Broadcast::SubscriptionState`. -/
inductive SubscriptionState
  | none
  | open
  | feedHasAppeared
  | stageHasGoneLive
  deriving DecidableEq, Repr

/-- What `screenshotPromise` has been given. -/
inductive Screenshot
  | unset
  | value
  | exception
  deriving DecidableEq, Repr

/-- The errors of an `AddFeedPayload`, as far as `createFeed` tells them apart. -/
inductive FeedError
  | outOfCapacity
  | other
  deriving DecidableEq, Repr

/-- What `createFeed` reads of an `AddFeedPayload`; `streamUrl` is there for a
`BroadcasterStream`. -/
structure AddFeedPayload where
  error : Option FeedError
  broadcastId : Option String
  streamUrl : Option String
  deriving DecidableEq, Repr

/-- What `startHeartbeat` reads of a `StartBroadcastPayload`. -/
structure StartPayload where
  hasError : Bool
  live : Bool
  deriving DecidableEq, Repr

/-! ## Program counters -/

/-- The steps of the broadcast thread that wait for something outside and then go
on or give up. -/
inductive Stage
  | setupSubscription
  | createVideoTrack
  | createPeerConnection
  | awaitOffer
  | setLocalDescription
  | createRemoteDescription
  | awaitCandidates
  | trickleCandidates
  | setRemoteDescription
  | addStatsObserver
  | awaitScreenshot
  | sendScreenshot
  | awaitSubscription
  deriving DecidableEq, Repr

/-- Where the broadcast thread is.  The requests in flight carry what they were sent
with. -/
inductive Thread
  | notCreated
  | stage (p : Stage)
  | requireStarting
  | readFeedInput
  | addFeed (x : Stamped (Option Bytes))
  | goStreaming
  | startedCallback
  | requireStreaming
  | readTitle
  | startBroadcast (x : Stamped Bytes)
  | goLive (payload : Option StartPayload)
  | loopTest (interval failures : ℕ)
  | heartbeat (failures : ℕ)
  | storeQuality (quality : ConnectionQuality)
  | readFeed
  | updateFeed (x : Stamped (Option Bytes))
  | loopSleep (interval failures : ℕ)
  | afterLoop
  | stopBroadcast
  | releaseStatsObserver
  | finished
  | aborted
  deriving DecidableEq, Repr

/-- Where the call of `Broadcast::start` is. -/
inductive StartCall
  | notCalled
  | awaitingEncoderInfo
  | returned
  | raised
  deriving DecidableEq, Repr

/-- Where the call of `Broadcast::stop` is. -/
inductive StopCall
  | notCalled
  | joining
  | joined
  | returned
  deriving DecidableEq, Repr

/-- Where a call of a setter or of `sendVideo` is.  `titleStored` and `gameStored`
carry the version they stored, a request in flight what it was sent with (a feed
input the game and the connection quality) and whether the server has processed it. -/
inductive Call
  | idle
  | titleStored (version : ℕ)
  | titleReading
  | titleSent (x : Stamped Bytes) (served : Bool)
  | gameStored (version : ℕ)
  | feedReading
  | feedSent (x : Stamped (Option Bytes)) (quality : ConnectionQuality) (served : Bool)
  | sendingVideo
  deriving DecidableEq, Repr

/-- Who found the broadcast failed. -/
inductive Reporter
  | broadcastThread
  | application
  | peerConnection
  | subscription
  deriving DecidableEq, Repr

/-! ## The world -/

structure World where
  state : State := .offline
  title : Bytes
  rating : Rating
  gameId : Bytes
  connectionQuality : ConnectionQuality := .unknown
  broadcastId : Option String := none
  streamUrl : Option String := none
  videoCapturer : Bool := false
  peerConnection : Bool := false
  statsObserver : Bool := false
  screenshot : Screenshot := .unset
  isScreenshotNeeded : Bool := true
  subscribed : Bool := false
  subscriptionState : SubscriptionState := .none
  subscriptionOpened : Bool := false
  startCall : StartCall := .notCalled
  thread : Thread := .notCreated
  threadServed : Bool := false  -- the server has processed the request of the thread
  stopCall : StopCall := .notCalled
  calls : ℕ → Call := fun _ => .idle
  -- the stage on the server
  stageTitle : Option (Stamped Bytes) := none
  feedGame : Option (Stamped (Option Bytes)) := none
  -- auxiliary
  titleVersion : ℕ := 0
  gameVersion : ℕ := 0
  titleOpened : Option ℕ := none
  gameOpened : Option ℕ := none

/-- A broadcast as constructed. -/
def World.init (title : Bytes) (rating : Rating) (gameId : Bytes) : World :=
  { title, rating, gameId }

/-- What can be seen of a step. -/
inductive Event
  | failureReported (reporter : Reporter) (error : Result)
  | startedCallback
  | startBroadcast (payload : Option StartPayload)
  | wentLive
  | heartbeatIteration
  | heartbeat
  | stopBroadcast
  | undefinedErrorAccess
  | badBroadcastIdAccess
  | uninitializedVideoCapturer
  | stopStored
  | joined
  | stopReturned
  deriving DecidableEq, Repr

/-- What the outside answers in a step. -/
inductive Outcome
  | success
  | failure
  | raised
  | feed (payload : Option AddFeedPayload)
  | start (payload : Option StartPayload)
  | heartbeat (response : Option ConnectionQuality)
  deriving DecidableEq, Repr

/-- The `StartBroadcast` mutation put the stage live. -/
def startSucceeded (payload : Option StartPayload) : Bool :=
  payload = some { hasError := false, live := true }

/-! The constants of `startHeartbeat`, times in milliseconds. -/

def heartbeatInterval : ℕ := 5000
def checkInterval : ℕ := 100
def maxFailures : ℕ := 5

namespace World

def isOnline (s : World) : Bool :=
  match s.state with
  | .offline | .starting | .stopping => false
  | .streaming | .live => true

/-- `fullTitle`, with the version it reflects. -/
def fullTitle (s : World) : Stamped Bytes := ⟨annotateTitle s.title s.rating, s.titleVersion⟩

/-- The game of `currentFeedInput`, with the version it reflects. -/
def currentGame (s : World) : Stamped (Option Bytes) :=
  ⟨if s.gameId.isEmpty then none else some s.gameId, s.gameVersion⟩

/-! ## The broadcast thread -/

/-- The thread goes on at `t`. -/
def goto (s : World) (t : Thread) : World := { s with thread := t }

/-- The thread sends a request and waits for it at `t`. -/
def request (s : World) (t : Thread) : World := { s with thread := t, threadServed := false }

@[simp] theorem goto_thread (s : World) (t : Thread) : (s.goto t).thread = t := rfl
@[simp] theorem goto_state (s : World) (t : Thread) : (s.goto t).state = s.state := rfl

/-- The thread reports a failure and goes on at `t`. -/
def reportThen (s : World) (error : Result) (t : Thread) : World × List Event :=
  (s.goto t, [.failureReported .broadcastThread error])

end World

namespace Stage

/-- What the step assigns. -/
def assign (s : World) : Stage → World
  | .setupSubscription => { s with subscribed := true }
  | .createVideoTrack => { s with videoCapturer := true }
  | .createPeerConnection => { s with peerConnection := true }
  | .addStatsObserver => { s with statsObserver := true }
  | _ => s

/-- The step after it. -/
def next : Stage → Thread
  | .setupSubscription => .stage .createVideoTrack
  | .createVideoTrack => .stage .createPeerConnection
  | .createPeerConnection => .stage .awaitOffer
  | .awaitOffer => .stage .setLocalDescription
  | .setLocalDescription => .requireStarting
  | .createRemoteDescription => .stage .awaitCandidates
  | .awaitCandidates => .stage .trickleCandidates
  | .trickleCandidates => .stage .setRemoteDescription
  | .setRemoteDescription => .stage .addStatsObserver
  | .addStatsObserver => .goStreaming
  | .awaitScreenshot => .stage .sendScreenshot
  | .sendScreenshot => .stage .awaitSubscription
  | .awaitSubscription => .readTitle

/-- The failure the step reports when it gives up, if it can, and where the thread
goes then: out of its body, or out of `startHeartbeat`. -/
def giveUp : Stage → Option (Result × Thread)
  | .setupSubscription | .createVideoTrack | .createPeerConnection | .addStatsObserver => none
  | .awaitOffer | .setLocalDescription | .createRemoteDescription | .awaitCandidates
  | .trickleCandidates | .setRemoteDescription => some (.failure, .finished)
  | .awaitScreenshot | .sendScreenshot | .awaitSubscription =>
      some (.broadcastFailed, .releaseStatsObserver)

/-- The step stands inside the `try` of `startHeartbeat`. -/
def catches : Stage → Bool
  | .awaitScreenshot | .sendScreenshot => true
  | _ => false

/-- The step can succeed: the two promises have their values.  A screenshot promise
that holds an exception makes the thread give up. -/
def canSucceed (s : World) : Stage → Bool
  | .awaitScreenshot => s.screenshot = .value
  | .sendScreenshot => s.broadcastId.isSome
  | .awaitSubscription => s.subscriptionOpened
  | _ => true

/-- The step can fail: the wait for a promise times out only without a value. -/
def canFail (s : World) : Stage → Bool
  | .awaitScreenshot => s.screenshot ≠ .value
  | .awaitSubscription => !s.subscriptionOpened
  | _ => true

/-- `broadcastId.value()` throws. -/
def access (s : World) : Stage → List Event
  | .sendScreenshot => if s.broadcastId.isSome then [] else [.badBroadcastIdAccess]
  | _ => []

end Stage

namespace World

/-- A step of the thread at a stage. -/
def stageStep (s : World) (p : Stage) : Outcome → Option (World × List Event)
  | .success =>
      if p.canSucceed s then some ((p.assign s).goto p.next, p.access s) else none
  | .failure =>
      match p.giveUp with
      | some (error, exit) =>
          if p.canFail s then
            some (s.goto exit, p.access s ++ [.failureReported .broadcastThread error])
          else none
      | none => none
  | .raised =>
      match p.giveUp, p.catches with
      | some (error, exit), true =>
          some (s.goto exit, p.access s ++ [.failureReported .broadcastThread error])
      | _, _ => some (s.goto .aborted, p.access s)
  | _ => none

/-- The rest of `createFeed` once its request is answered. -/
def feedAnswered (s : World) (payload : Option AddFeedPayload) : World × List Event :=
  match payload with
  | none => s.reportThen .broadcastFailed .finished
  | some payload =>
      match payload.error, payload.broadcastId, payload.streamUrl with
      | some .outOfCapacity, _, _ => s.reportThen .outOfCapacity .finished
      | some .other, _, _ => s.reportThen .broadcastFailed .finished
      | none, none, _ => s.reportThen .broadcastFailed .finished
      | none, some id, none =>
          ({ s with broadcastId := some id }).reportThen .broadcastFailed .finished
      | none, some id, some url =>
          (({ s with broadcastId := some id, streamUrl := some url }).goto
            (.stage .createRemoteDescription), [])

/-- The rest of the branch on the answer to `StartBroadcast`, up to the transition
to `Live`: an unsuccessful payload is logged through its error, whether or not it
has one, and the failure is reported, and then the thread goes on. -/
def startAnswered (s : World) (payload : Option StartPayload) : World × List Event :=
  let log : List Event :=
    match payload with
    | some payload => if payload.hasError then [] else [.undefinedErrorAccess]
    | none => []
  (s.goto (.goLive payload),
    .startBroadcast payload ::
      if startSucceeded payload then []
      else log ++ [.failureReported .broadcastThread .broadcastFailed])

/-- The loop test of the heartbeats and, if it passes, the bookkeeping of the
interval. -/
def loopTested (s : World) (interval failures : ℕ) : World × List Event :=
  if s.state = .live then
    if interval + checkInterval < heartbeatInterval then
      (s.goto (.loopSleep (interval + checkInterval) failures), [.heartbeatIteration])
    else (s.goto (.heartbeat failures), [.heartbeatIteration])
  else (s.goto .afterLoop, [])

/-- The loop body after the heartbeat is answered. -/
def heartbeatAnswered (s : World) (failures : ℕ) (response : Option ConnectionQuality) :
    World × List Event :=
  match response with
  | some quality => (s.goto (.storeQuality quality), [.heartbeat])
  | none =>
      if failures + 1 > maxFailures then
        (s.goto .afterLoop, [.heartbeat, .failureReported .broadcastThread .disconnected])
      else (s.goto (.loopSleep 0 (failures + 1)), [.heartbeat])

/-- **One step of the broadcast thread.** -/
def threadStep (s : World) (o : Outcome) : Option (World × List Event) :=
  match s.thread, o with
  | .stage p, o => s.stageStep p o
  -- createFeed
  | .requireStarting, .success =>
      if s.state = .starting then some (s.goto .readFeedInput, [])
      else some (s.reportThen .broadcastFailed .finished)
  | .readFeedInput, .success =>
      some (({ s with gameOpened := some s.gameVersion }).request (.addFeed s.currentGame), [])
  | .addFeed _, .feed payload =>
      if payload.isSome → s.threadServed then some (s.feedAnswered payload) else none
  | .addFeed _, .raised => some (s.goto .aborted, [])
  -- the end of the body of `start`
  | .goStreaming, .success =>
      if s.state = .starting then
        some (({ s with state := .streaming }).goto .startedCallback, [])
      else some (s.goto .finished, [])
  | .startedCallback, .success => some (s.goto .requireStreaming, [.startedCallback])
  -- startHeartbeat
  | .requireStreaming, .success =>
      if s.state = .streaming then some (s.goto (.stage .awaitScreenshot), [])
      else some (s.goto .releaseStatsObserver, [])
  | .readTitle, .success =>
      some (({ s with titleOpened := some s.titleVersion }).request
        (.startBroadcast s.fullTitle), [])
  | .startBroadcast _, .start payload =>
      if payload.isSome → s.threadServed then some (s.startAnswered payload) else none
  | .startBroadcast _, .raised => some (s.goto .aborted, [])
  | .goLive _, .success =>
      if s.state = .streaming then
        some (({ s with state := .live }).goto (.loopTest heartbeatInterval 0), [.wentLive])
      else some (s.goto .stopBroadcast, [])
  | .loopTest interval failures, .success => some (s.loopTested interval failures)
  | .heartbeat failures, .heartbeat response => some (s.heartbeatAnswered failures response)
  | .heartbeat _, .raised => some (s.goto .aborted, [.heartbeat])
  | .storeQuality quality, .success =>
      if quality ≠ s.connectionQuality then
        some (({ s with connectionQuality := quality }).goto .readFeed, [])
      else some (s.goto (.loopSleep 0 0), [])
  | .readFeed, .success => some (s.request (.updateFeed s.currentGame), [])
  | .updateFeed _, .success =>
      if s.threadServed then some (s.goto (.loopSleep 0 0), []) else none
  | .updateFeed _, .failure => some (s.reportThen .broadcastFailed .releaseStatsObserver)
  | .updateFeed _, .raised => some (s.goto .aborted, [])
  | .loopSleep interval failures, .success => some (s.goto (.loopTest interval failures), [])
  | .afterLoop, .success =>
      if s.state = .stopping then some (s.goto .stopBroadcast, [])
      else some (s.goto .releaseStatsObserver, [])
  -- what the mutation answers is not looked at
  | .stopBroadcast, .success => some (s.goto .releaseStatsObserver, [.stopBroadcast])
  | .stopBroadcast, .failure => some (s.goto .releaseStatsObserver, [.stopBroadcast])
  | .stopBroadcast, .raised => some (s.goto .aborted, [.stopBroadcast])
  | .releaseStatsObserver, .success =>
      some (({ s with statsObserver := false }).goto .finished, [])
  | _, _ => none

/-- The server processes the request the thread is waiting for. -/
def serveThread (s : World) : Option World :=
  if s.threadServed then none
  else
    match s.thread with
    | .addFeed x => some { s with threadServed := true, feedGame := some x }
    | .updateFeed x => some { s with threadServed := true, feedGame := some x }
    | .startBroadcast x => some { s with threadServed := true, stageTitle := some x }
    | _ => none

/-! ## Calls of the application -/

/-- The broadcast can be got at through its instance: `startBroadcast` has let go of
the lock. -/
def reachable (s : World) : Bool := s.startCall = .returned ∨ s.startCall = .raised

/-- Call `i` goes on at `c`. -/
def setCall (s : World) (i : ℕ) (c : Call) : World :=
  { s with calls := Function.update s.calls i c }

@[simp] theorem setCall_calls_self (s : World) (i : ℕ) (c : Call) :
    (s.setCall i c).calls i = c := by
  simp [setCall]

theorem setCall_calls_of_ne (s : World) {i j : ℕ} (c : Call) (h : j ≠ i) :
    (s.setCall i c).calls j = s.calls j := by
  simp [setCall, h]

/-- The critical section of `setTitle`. -/
def setTitle (s : World) (i : ℕ) (title : Bytes) : World :=
  if title ≠ s.title then
    ({ s with title, titleVersion := s.titleVersion + 1 }).setCall i
      (.titleStored (s.titleVersion + 1))
  else s

/-- The critical section of `setRating`. -/
def setRating (s : World) (i : ℕ) (rating : Rating) : World :=
  if rating ≠ s.rating then
    ({ s with rating, titleVersion := s.titleVersion + 1 }).setCall i
      (.titleStored (s.titleVersion + 1))
  else s

/-- The critical section of `setGameId`. -/
def setGameId (s : World) (i : ℕ) (id : Bytes) : World :=
  if s.gameId ≠ id then
    ({ s with gameId := id, gameVersion := s.gameVersion + 1 }).setCall i
      (.gameStored (s.gameVersion + 1))
  else s

/-- `sendVideo` up to the use of the capturer. -/
def sendVideo (s : World) (i : ℕ) (width height : ℤ) : World × List Event :=
  if s.isOnline then
    match checkAspectRatio width height with
    | .success => (s.setCall i .sendingVideo, [])
    | error => (s, [.failureReported .application error])
  else (s, [])

/-- The use of the capturer in `sendVideo`: no frame (`failure`), or a frame that
becomes the screenshot if one is needed, or fails to (`raised`). -/
def captureVideo (s : World) (i : ℕ) (o : Outcome) : Option (World × List Event) :=
  let used : List Event := if s.videoCapturer then [] else [.uninitializedVideoCapturer]
  match o with
  | .failure => some (s.setCall i .idle, used)
  | .success =>
      if s.isScreenshotNeeded then
        some (({ s with isScreenshotNeeded := false, screenshot := .value }).setCall i .idle, used)
      else some (s.setCall i .idle, used)
  | .raised =>
      if s.isScreenshotNeeded then
        some (({ s with isScreenshotNeeded := false, screenshot := .exception }).setCall i .idle,
          used)
      else none
  | _ => none

/-- **One step of a call**, after the critical section of its setter. -/
def callStep (s : World) (i : ℕ) (o : Outcome) : Option (World × List Event) :=
  match s.calls i, o with
  | .titleStored _, .success =>
      some (s.setCall i (if s.state = .live then .titleReading else .idle), [])
  | .titleReading, .success => some (s.setCall i (.titleSent s.fullTitle false), [])
  | .titleSent _ served, .success => if served then some (s.setCall i .idle, []) else none
  | .titleSent .., .failure => some (s.setCall i .idle, [])
  | .titleSent .., .raised => some (s.setCall i .idle, [])
  | .gameStored _, .success =>
      some (s.setCall i (if s.isOnline then .feedReading else .idle), [])
  | .feedReading, .success =>
      some (s.setCall i (.feedSent s.currentGame s.connectionQuality false), [])
  | .feedSent _ _ served, .success => if served then some (s.setCall i .idle, []) else none
  | .feedSent .., .failure => some (s.setCall i .idle, [])
  | .feedSent .., .raised => some (s.setCall i .idle, [])
  | .sendingVideo, o => s.captureVideo i o
  | _, _ => none

/-- The server processes the request call `i` is waiting for. -/
def serveCall (s : World) (i : ℕ) : Option World :=
  match s.calls i with
  | .titleSent x false => some (({ s with stageTitle := some x }).setCall i (.titleSent x true))
  | .feedSent x quality false =>
      some (({ s with feedGame := some x }).setCall i (.feedSent x quality true))
  | _ => none

/-! ## Starting and stopping -/

/-- `start` up to its request. -/
def startStep (s : World) : Option World :=
  match s.startCall with
  | .notCalled =>
      some { s with
        state := if s.state = .offline then .starting else s.state
        startCall := .awaitingEncoderInfo }
  | _ => none

/-- The encoder information comes, and the thread is created, or it throws. -/
def encoderInfoStep (s : World) (raised : Bool) : Option World :=
  match s.startCall with
  | .awaitingEncoderInfo =>
      if raised then some { s with startCall := .raised }
      else some { s with startCall := .returned, thread := .stage .setupSubscription }
  | _ => none

/-- Joining the thread comes back: it has finished, or there is none. -/
def canJoin (s : World) : Bool := s.thread = .finished ∨ s.thread = .notCreated

/-- One step of `stop`. -/
def stopStep (s : World) : Option (World × List Event) :=
  match s.stopCall with
  | .notCalled =>
      if s.reachable then some ({ s with state := .stopping, stopCall := .joining }, [.stopStored])
      else none
  | .joining => if s.canJoin then some ({ s with stopCall := .joined }, [.joined]) else none
  | .joined => some ({ s with state := .offline, stopCall := .returned }, [.stopReturned])
  | .returned => none

/-! ## The subscription -/

/-- The part of the message handler that moves `subscriptionState` on. -/
def subscriptionStep (s : World) (feedIsOnStage live : Bool) : World :=
  let s : World :=
    if s.subscriptionState = .none then
      { s with subscriptionState := .open, subscriptionOpened := true }
    else s
  if feedIsOnStage then
    let s : World :=
      if s.subscriptionState = .open then { s with subscriptionState := .feedHasAppeared } else s
    if live then { s with subscriptionState := .stageHasGoneLive } else s
  else s

/-- The message handler on a stage update. -/
def stageUpdate (s : World) (feedIsOnStage live : Bool) : World × List Event :=
  let s := s.subscriptionStep feedIsOnStage live
  let appeared : Bool :=
    s.subscriptionState = .feedHasAppeared ∨ s.subscriptionState = .stageHasGoneLive
  if !feedIsOnStage && appeared && s.isOnline then (s, [.failureReported .subscription .takeover])
  else if !live && s.subscriptionState = .stageHasGoneLive && s.state = .live then
    (s, [.failureReported .subscription .takeover])
  else (s, [])

/-! ## The machine -/

end World

/-- What takes its next step. -/
inductive Action
  | start
  | encoderInfo (raised : Bool)
  | thread (o : Outcome)
  | serveThread
  | setTitle (i : ℕ) (title : Bytes)
  | setRating (i : ℕ) (rating : Rating)
  | setGameId (i : ℕ) (id : Bytes)
  | sendVideo (i : ℕ) (width height : ℤ)
  | call (i : ℕ) (o : Outcome)
  | serveCall (i : ℕ)
  | stop
  | stageUpdate (feedIsOnStage live : Bool)
  | subscriptionErrors
  | iceConnectionFailed
  deriving DecidableEq, Repr

namespace World

/-- A new call can be made by thread `i`. -/
def canCall (s : World) (i : ℕ) : Bool := s.reachable ∧ s.calls i = .idle

def step (s : World) : Action → Option (World × List Event)
  | .start => s.startStep.map (·, [])
  | .encoderInfo raised => (s.encoderInfoStep raised).map (·, [])
  | .thread o => s.threadStep o
  | .serveThread => s.serveThread.map (·, [])
  | .setTitle i title => if s.canCall i then some (s.setTitle i title, []) else none
  | .setRating i rating => if s.canCall i then some (s.setRating i rating, []) else none
  | .setGameId i id => if s.canCall i then some (s.setGameId i id, []) else none
  | .sendVideo i width height => if s.canCall i then some (s.sendVideo i width height) else none
  | .call i o => s.callStep i o
  | .serveCall i => (s.serveCall i).map (·, [])
  | .stop => s.stopStep
  | .stageUpdate feedIsOnStage live =>
      if s.subscribed then some (s.stageUpdate feedIsOnStage live) else none
  | .subscriptionErrors =>
      if s.subscribed then some (s, [.failureReported .subscription .broadcastFailed]) else none
  | .iceConnectionFailed =>
      if s.peerConnection then some (s, [.failureReported .peerConnection .broadcastFailed])
      else none

end World

/-- The broadcast as a machine. -/
def broadcastMachine : Machine World Action Event := ⟨World.step⟩

end Caff
