/-
# The stage subscription and its websocket

`Broadcast::setupSubscription`, the class `GraphqlSubscription` and the class
`WebsocketClient`, around one broadcast from its construction to its destruction, as a
machine.  The broadcast is that of `Broadcast.lean`; of its actions only those of the
subscription are taken over here.

What runs is a list of operations for each thread: the broadcast thread in its first step
`setupSubscription`, the websocket thread in a handler, the thread in `Broadcast::stop`,
and the one that drops the last reference to the broadcast.  An input lets one thread do its
next operation; the operation may put others in front of the rest.  When it has none left
the websocket thread takes the next event of a connection.

A subscription or a connection is named by a number that the input which makes it brings
along.  The strong references to a subscription are the member `subscription` and those of
the handlers on the websocket thread, which are operations still to be done there; when the
last goes, the destructor runs on the thread that let go.  The same for the broadcast, whose
other references are the slot of the instance and the copies that API calls and the detached
thread of `endBroadcast` hold.  A thread that is inside a subscription when it is destroyed
goes on as if the memory were still there.  The destructor of `WebsocketClient` joins the
websocket thread, which changes nothing for the others and is left out.
-/
import Caffeine.StageUpdates

namespace Caff

/-! ## Connections and subscriptions -/

/-- `WebsocketClient::ConnectionEndType`. -/
inductive ConnectionEndType
  | failed
  | closed
  deriving DecidableEq, Repr

/-- Where a connection is in websocketpp.  Its end is a state first, and then a handler is
called. -/
inductive ConnectionPhase
  | connecting
  | open
  | closing
  | ended (endType : ConnectionEndType)
  | handled
  deriving DecidableEq, Repr

/-- The end of a connection that is not at its end: before it was open it has failed. -/
def ConnectionPhase.endType : ConnectionPhase → Option ConnectionEndType
  | .connecting => some .failed
  | .open | .closing => some .closed
  | .ended _ | .handled => none

structure Connection where
  subscription : ℕ  -- the one its callbacks are bound to
  phase : ConnectionPhase := .connecting
  discarded : Bool := false  -- the subscription has given up the handle
  deriving DecidableEq, Repr

/-- A `GraphqlSubscription`. -/
structure Subscription where
  tryNum : ℕ  -- bound by its `endedHandler`
  connection : Option ℕ := none
  alive : Bool := true
  deriving DecidableEq, Repr

/-- One of the errors says that the credential has expired. -/
def Message.shouldRefresh : Message → Bool
  | .update _ => false
  | .errors messages => messages.any (· = "credential expired")

/-! ## Threads -/

inductive Runner
  | broadcastThread
  | clientThread
  | stopper
  | owner
  deriving DecidableEq, Repr

instance {p : Runner → Prop} [DecidablePred p] : Decidable (∀ r, p r) :=
  decidable_of_iff (p .broadcastThread ∧ p .clientThread ∧ p .stopper ∧ p .owner)
    ⟨fun ⟨hb, hc, hs, ho⟩ r => by cases r <;> assumption, fun h => ⟨h _, h _, h _, h _⟩⟩

inductive Op
  -- setupSubscription
  | assign (tryNum : ℕ)
  | connectMember
  -- GraphqlSubscription::disconnect and connect
  | close (k : ℕ)
  | reset (k : ℕ)
  | dial (k : ℕ)
  | keep (k : ℕ) (connection : Option ℕ)
  -- `subscription = nullptr`
  | clear
  -- the callbacks of `connect`
  | connectionInit (k : ℕ)
  | readRefreshToken (k : ℕ) (m : Message)
  | awaitRefresh (k : ℕ) (m : Message)
  | writeCredentials (k : ℕ)
  | releaseSubscription (k : ℕ)
  -- endedHandler
  | lockEnded (tryNum : ℕ) (endType : ConnectionEndType)
  | testEnded (tryNum : ℕ) (endType : ConnectionEndType)
  | lockRetry (tryNum : ℕ)
  | testRetry (tryNum : ℕ)
  -- messageHandler
  | lockMessage (m : Message)
  | handle (m : Message)
  | releaseBroadcast
  -- an exception or a null pointer
  | aborted
  deriving DecidableEq, Repr

/-- The thread holds a strong reference to the broadcast while this is to be done. -/
def Op.holdsBroadcast : Op → Bool
  | .testEnded .. | .testRetry _ | .handle _ | .releaseBroadcast => true
  | _ => false

/-- What the outside answers to an operation. -/
inductive Reply
  | success
  | failure
  | raised
  | fresh (n : ℕ)
  deriving DecidableEq, Repr

/-! ## The state -/

structure Realtime where
  feedId : String
  world : World
  subscription : Option ℕ := none
  subscriptions : ℕ → Option Subscription := fun _ => none
  connections : ℕ → Option Connection := fun _ => none
  pending : Runner → List Op := fun _ => []
  -- the references to the broadcast outside the websocket thread
  slot : Bool := true
  references : ℕ := 0
  destroyed : Bool := false
  sharedCredentials : Bool := true
  statsRequests : ℕ := 0
  statsTasks : ℕ := 0

/-- A broadcast as constructed. -/
def Realtime.init (feedId : String) (title : Bytes) (rating : Rating) (gameId : Bytes) : Realtime :=
  { feedId, world := .init title rating gameId }

inductive RealtimeEvent
  | world (e : Event)
  | created (k : ℕ)
  | setUp (k : ℕ)
  | refreshed (k : ℕ)
  | dialed (k c : ℕ)
  | dialFailed (k : ℕ)
  | disconnected (c : ℕ)
  | endedHandler (c : ℕ)
  | destroyed (r : Runner)
  | credentialsUsed
  | signedOut
  deriving DecidableEq, Repr

/-- `Starting`, `Streaming` or `Live`. -/
def State.isRunning : State → Bool
  | .starting | .streaming | .live => true
  | .offline | .stopping => false

/-- The thread is at a heartbeat; it has asked for statistics on the way. -/
def Thread.isHeartbeat : Thread → Bool
  | .heartbeat _ => true
  | _ => false

namespace Realtime

/-- Thread `r` is to do `ops` before what it has to do already. -/
def push (s : Realtime) (r : Runner) (ops : List Op) : Realtime :=
  { s with pending := Function.update s.pending r (ops ++ s.pending r) }

/-- Thread `r` has `rest` to do. -/
def pop (s : Realtime) (r : Runner) (rest : List Op) : Realtime :=
  { s with pending := Function.update s.pending r rest }

def setSubscription (s : Realtime) (k : ℕ) (f : Subscription → Subscription) : Realtime :=
  { s with subscriptions := Function.update s.subscriptions k ((s.subscriptions k).map f) }

def setConnection (s : Realtime) (c : ℕ) (f : Connection → Connection) : Realtime :=
  { s with connections := Function.update s.connections c ((s.connections c).map f) }

/-- The handle subscription `k` holds. -/
def handleOf (s : Realtime) (k : ℕ) : Option ℕ := (s.subscriptions k).bind (·.connection)

/-- A weak reference to subscription `k` can be locked. -/
def alive (s : Realtime) (k : ℕ) : Bool := (s.subscriptions k).any (·.alive)

/-- There is a strong reference to subscription `k`. -/
def refers (s : Realtime) (k : ℕ) : Bool :=
  s.subscription = some k ∨ .releaseSubscription k ∈ s.pending .clientThread

/-- The websocket thread holds a strong reference to the broadcast. -/
def clientHolds (s : Realtime) : Bool := (s.pending .clientThread).any Op.holdsBroadcast

/-- A reference to subscription `k` is gone; after the last one its destructor runs, which
disconnects. -/
def release (s : Realtime) (k : ℕ) : Realtime × List Op :=
  if s.refers k then (s, [])
  else (s.setSubscription k fun x => { x with alive := false }, [.close k])

/-- The member `connection` of subscription `k` becomes `connection`. -/
def assignHandle (s : Realtime) (k : ℕ) (connection : Option ℕ) : Realtime :=
  (match s.handleOf k with
    | some c => s.setConnection c fun x => { x with discarded := true }
    | none => s).setSubscription k fun x => { x with connection }

/-- The last reference to the broadcast may be gone. -/
def dropBroadcast (s : Realtime) (r : Runner) : Realtime × List Op × List RealtimeEvent :=
  if !s.slot ∧ s.references = 0 ∧ !s.clientHolds then
    ({ s with destroyed := true }, [.clear], [.destroyed r])
  else (s, [], [])

/-! ## Operations -/

/-- `subscription` becomes the new subscription `k`. -/
def assign (s : Realtime) (k tryNum : ℕ) : Realtime × List Op :=
  let s' : Realtime :=
    { s with
      subscriptions := Function.update s.subscriptions k (some { tryNum })
      subscription := some k }
  match s.subscription with
  | some old => s'.release old
  | none => (s', [])

/-- `subscription` becomes null. -/
def clear (s : Realtime) : Realtime × List Op :=
  match s.subscription with
  | some k => { s with subscription := none }.release k
  | none => (s, [])

/-- `WebsocketClient::close`: without effect on a connection that is not open. -/
def closeConnection (s : Realtime) (c : ℕ) : Realtime :=
  s.setConnection c fun x => { x with phase := if x.phase = .open then .closing else x.phase }

/-- The state test of `endedHandler`. -/
def afterEnded (s : Realtime) (tryNum : ℕ) (endType : ConnectionEndType) : List Op :=
  if s.world.state.isRunning then
    match endType with
    | .closed => [.assign 1, .connectMember, .releaseBroadcast]
    | .failed => [.releaseBroadcast, .lockRetry tryNum]
  else [.releaseBroadcast]

/-- The state test after the delay. -/
def afterRetry (s : Realtime) (tryNum : ℕ) : List Op :=
  if s.world.state.isRunning then [.assign (tryNum + 1), .connectMember, .releaseBroadcast]
  else [.releaseBroadcast]

/-- `messageHandler` on a message, in one step. -/
def handleMessage (s : Realtime) : Message → Realtime × List Event
  | .update u =>
      let r := s.world.stageUpdate (u.shows s.feedId) u.live
      ({ s with world := r.1 }, r.2)
  | .errors _ => (s, [.failureReported .subscription .broadcastFailed])

/-- **One operation of thread `r`**: the state after it, what the thread is to do next, and
what is seen. -/
def exec (s : Realtime) (r : Runner) :
    Op → Reply → Option (Realtime × List Op × List RealtimeEvent)
  | .assign tryNum, .fresh k =>
      if s.subscriptions k = none then
        some ((s.assign k tryNum).1, (s.assign k tryNum).2, [.created k])
      else none
  | .connectMember, .success =>
      match s.subscription with
      | some k => some (s, [.close k, .dial k], [.setUp k])
      | none => some (s, [.aborted], [])
  | .close k, .success =>
      match s.handleOf k with
      | some c => some (s.closeConnection c, [.reset k], [.disconnected c])
      | none => some (s, [], [])
  | .reset k, .success => some (s.assignHandle k none, [], [])
  | .dial k, .fresh c =>
      if s.connections c = none then
        some ({ s with
          connections := Function.update s.connections c (some { subscription := k }) },
          [.keep k (some c)], [.dialed k c])
      else none
  | .dial k, .failure => some (s, [.keep k none], [.dialFailed k])
  | .keep k connection, .success => some (s.assignHandle k connection, [], [])
  | .clear, .success => some (s.clear.1, s.clear.2, [])
  | .connectionInit _, .success => some (s, [], [.credentialsUsed])
  | .readRefreshToken k m, .success => some (s, [.awaitRefresh k m], [.credentialsUsed])
  | .awaitRefresh k _, .success => some (s, [.writeCredentials k], [])
  | .awaitRefresh _ m, .failure => some (s, [.lockMessage m], [])
  | .awaitRefresh _ _, .raised => some (s, [.aborted], [])
  | .writeCredentials k, .success =>
      some (s, [.close k, .dial k], [.credentialsUsed, .refreshed k])
  | .releaseSubscription k, .success => some ((s.release k).1, (s.release k).2, [])
  | .lockEnded tryNum endType, .success =>
      some (s, if s.destroyed then [] else [.testEnded tryNum endType], [])
  | .testEnded tryNum endType, .success => some (s, s.afterEnded tryNum endType, [])
  | .lockRetry tryNum, .success =>
      some (s, if s.destroyed then [] else [.testRetry tryNum], [])
  | .testRetry tryNum, .success => some (s, s.afterRetry tryNum, [])
  | .lockMessage m, .success => some (s, if s.destroyed then [] else [.handle m], [])
  | .handle m, .success =>
      some ((s.handleMessage m).1, [.releaseBroadcast], (s.handleMessage m).2.map .world)
  | .releaseBroadcast, .success => some (s.dropBroadcast r)
  | _, _ => none

/-! ## Events of the connections -/

/-- The websocket thread runs a callback of a connection: if the subscription is there, it is
held until the operations `ops` are done. -/
def callback (s : Realtime) (k : ℕ) (ops : List Op) : Realtime :=
  if s.alive k then s.push .clientThread (ops ++ [.releaseSubscription k]) else s

/-- What the callback for messages does with the message. -/
def received (k : ℕ) (m : Message) : Op :=
  if m.shouldRefresh then .readRefreshToken k m else .lockMessage m

def setPhase (s : Realtime) (c : ℕ) (phase : ConnectionPhase) : Realtime :=
  s.setConnection c fun x => { x with phase }

/-- The `tryNum` bound by the `endedHandler` of subscription `k`. -/
def tryNumOf (s : Realtime) (k : ℕ) : ℕ := ((s.subscriptions k).map (·.tryNum)).getD 0

/-! ## The broadcast -/

/-- The actions of the broadcast that are taken from there.  The thread goes on when
`setupSubscription` is through, and `stop` when it has cleared the member. -/
def admits (s : Realtime) : Action → Bool
  | .stageUpdate .. | .subscriptionErrors => false
  | .thread _ =>
      s.world.thread = .stage .setupSubscription → s.pending .broadcastThread = []
  | .stop => s.pending .stopper = []
  | _ => true

/-- The broadcast goes to `w` with the action. -/
def onWorld (s : Realtime) (w : World) : Action → Realtime
  | .encoderInfo false => { s with world := w }.push .broadcastThread [.assign 1, .connectMember]
  | .stop =>
      if s.world.stopCall = .notCalled then { s with world := w }.push .stopper [.clear]
      else { s with world := w }
  | .thread _ =>
      if !s.world.thread.isHeartbeat ∧ w.thread.isHeartbeat then
        { s with world := w, statsRequests := s.statsRequests + 1 }
      else { s with world := w }
  | _ => { s with world := w }

end Realtime

/-! ## The machine -/

inductive RealtimeAction
  | world (a : Action)
  | run (r : Runner) (reply : Reply)
  -- events of the connections
  | opened (c : ℕ)
  | peerClosed (c : ℕ)
  | terminated (c : ℕ)
  | ended (c : ℕ)
  | message (c : ℕ) (m : Message)
  -- references to the broadcast
  | getBroadcast
  | detach
  | drop
  -- statistics
  | completeStats
  | sendStats
  | dropStats
  | signOut
  deriving DecidableEq, Repr

namespace Realtime

/-- An event of connection `c`, which the websocket thread takes when it is in no
handler. -/
def onConnection (s : Realtime) (c : ℕ)
    (f : Connection → Option (Realtime × List RealtimeEvent)) :
    Option (Realtime × List RealtimeEvent) :=
  if s.pending .clientThread = [] then (s.connections c).bind f else none

def step (s : Realtime) : RealtimeAction → Option (Realtime × List RealtimeEvent)
  | .world a =>
      if s.admits a then
        match s.world.step a with
        | some (w, out) => some (s.onWorld w a, out.map .world)
        | none => none
      else none
  | .run r reply =>
      match s.pending r with
      | [] => none
      | op :: rest =>
          match (s.pop r rest).exec r op reply with
          | some (s', ops, out) => some (s'.push r ops, out)
          | none => none
  | .opened c =>
      s.onConnection c fun x =>
        if x.phase = .connecting then
          some ((s.setPhase c .open).callback x.subscription [.connectionInit x.subscription], [])
        else none
  -- the peer starts to close
  | .peerClosed c =>
      s.onConnection c fun x =>
        if x.phase = .open then some (s.setPhase c .closing, []) else none
  | .terminated c =>
      s.onConnection c fun x =>
        match x.phase.endType with
        | some endType => some (s.setPhase c (.ended endType), [])
        | none => none
  -- the close or the fail handler
  | .ended c =>
      s.onConnection c fun x =>
        match x.phase with
        | .ended endType =>
            some ((s.setPhase c .handled).callback x.subscription
              [.lockEnded (s.tryNumOf x.subscription) endType],
              if s.alive x.subscription then [.endedHandler c] else [])
        | _ => none
  | .message c m =>
      s.onConnection c fun x =>
        if x.phase = .open then some (s.callback x.subscription [received x.subscription m], [])
        else none
  -- under the lock, which `endBroadcast` holds while it stops the broadcast
  | .getBroadcast =>
      if s.slot ∧ s.world.reachable ∧ s.world.stopCall = .notCalled then
        some ({ s with references := s.references + 1 }, [])
      else none
  -- `endBroadcast` moves the reference of the slot to a thread of its own
  | .detach =>
      if s.slot ∧ s.world.stopCall = .returned then
        some ({ s with slot := false, references := s.references + 1 }, [])
      else none
  | .drop =>
      if 0 < s.references then
        let r := { s with references := s.references - 1 }.dropBroadcast .owner
        some (r.1.push .owner r.2.1, r.2.2)
      else none
  -- the reports come, and `OnComplete` posts a task
  | .completeStats =>
      if 0 < s.statsRequests then
        some ({ s with statsRequests := s.statsRequests - 1, statsTasks := s.statsTasks + 1 }, [])
      else none
  | .sendStats =>
      if 0 < s.statsTasks then
        some ({ s with statsTasks := s.statsTasks - 1 }, [.credentialsUsed])
      else none
  -- the queue is destroyed with the observer
  | .dropStats =>
      if !s.world.statsObserver ∧ s.statsRequests = 0 then some ({ s with statsTasks := 0 }, [])
      else none
  -- `endBroadcast` has returned
  | .signOut =>
      if !s.slot ∧ s.sharedCredentials then
        some ({ s with sharedCredentials := false }, [.signedOut])
      else none

end Realtime

/-- A broadcast with its subscriptions as a machine. -/
def realtimeMachine : Machine Realtime RealtimeAction RealtimeEvent := ⟨Realtime.step⟩

/-- The broadcast is started, and its thread sets up subscription `0` on connection `0`. -/
def setupActions : List RealtimeAction :=
  [.world .start, .world (.encoderInfo false)] ++
    [.fresh 0, .success, .success, .fresh 0, .success].map (.run .broadcastThread)

/-- The broadcast thread goes on after `stop` has stored `Stopping`: it finds it before it
creates a feed, and `stop` returns. -/
def stopActions : List RealtimeAction :=
  List.replicate 6 (.world (.thread .success)) ++ [.world .stop, .world .stop]

/-- A run from the construction of the broadcast. -/
def RealtimeRuns (feedId : String) (title : Bytes) (rating : Rating) (gameId : Bytes)
    (tr : List (Realtime × RealtimeAction)) (es : List RealtimeEvent) (s : Realtime) : Prop :=
  realtimeMachine.Run (.init feedId title rating gameId) tr es s

end Caff
