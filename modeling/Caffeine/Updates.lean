/-
# Updates of the title and of the game

`setTitle` and `setRating` publish the title, `setGameId` publishes the game, each
with a request of its own and only if it finds the broadcast in the right state;
the broadcast thread publishes both when it opens the broadcast.  A `Channel` says
where all this is found in a broadcast, its `view` is the broadcast as a state of
the publication protocol, and `Updates` lists what the steps of others than the
thread do to it.
-/
import Caffeine.BroadcastState

namespace Caff

open Publication (Stamped Phase)

/-! ## Channels -/

/-- The call publishes something. -/
def Call.publishes : Call → Bool
  | .idle | .sendingVideo => false
  | _ => true

/-- A value that is published: the value, the version the thread opened with, what the
server holds, the states in which a setter publishes, the requests of the thread, where
it is between its first one and such a state, the answers that are successes, and where
the calls are. -/
structure Channel (V : Type) where
  current : World → Stamped V
  opened : World → Option ℕ
  register : World → Option (Stamped V)
  isOpen : State → Bool
  request : Thread → Option (Stamped V)
  opening : Thread → Bool
  succeeds : Outcome → Bool
  call : Call → Phase V
  isOpen_online : ∀ st, isOpen st = true → st = .streaming ∨ st = .live
  opening_notCreated : opening .notCreated = false
  opening_stage : opening (.stage .setupSubscription) = false
  request_notCreated : request .notCreated = none
  request_stage : ∀ p, request (.stage p) = none
  call_idle : ∀ k, k.publishes = false → call k = .idle
  current_setCall : ∀ s i k, current (s.setCall i k) = current s
  opened_setCall : ∀ s i k, opened (s.setCall i k) = opened s
  register_setCall : ∀ s i k, register (s.setCall i k) = register s

def Thread.titleRequest : Thread → Option (Stamped Bytes)
  | .startBroadcast x => some x
  | _ => none

def Thread.feedRequest : Thread → Option (Stamped (Option Bytes))
  | .addFeed x => some x
  | .updateFeed x => some x
  | _ => none

def Thread.openingTitle : Thread → Bool
  | .startBroadcast _ | .goLive _ => true
  | _ => false

def Thread.openingFeed : Thread → Bool
  | .addFeed _ | .goStreaming => true
  | .stage .createRemoteDescription | .stage .awaitCandidates | .stage .trickleCandidates
  | .stage .setRemoteDescription | .stage .addStatsObserver => true
  | _ => false

def Outcome.titleSucceeds : Outcome → Bool
  | .start payload => startSucceeded payload
  | _ => false

def Outcome.feedSucceeds : Outcome → Bool
  | .success => true
  | .feed payload => feedSucceeded payload
  | _ => false

def Call.titlePhase : Call → Phase Bytes
  | .titleStored n => .wrote n
  | .titleReading => .reading
  | .titleSent x false => .sent x
  | .titleSent _ true => .served
  | _ => .idle

def Call.feedPhase : Call → Phase (Option Bytes)
  | .gameStored n => .wrote n
  | .feedReading => .reading
  | .feedSent x _ false => .sent x
  | .feedSent _ _ true => .served
  | _ => .idle

/-- The title of the stage. -/
def titleChannel : Channel Bytes where
  current := World.fullTitle
  opened := World.titleOpened
  register := World.stageTitle
  isOpen st := st = .live
  request := Thread.titleRequest
  opening := Thread.openingTitle
  succeeds := Outcome.titleSucceeds
  call := Call.titlePhase
  isOpen_online st h := .inr (by simpa using h)
  opening_notCreated := rfl
  opening_stage := rfl
  request_notCreated := rfl
  request_stage _ := rfl
  call_idle k hk := by cases k <;> first | rfl | cases hk
  current_setCall _ _ _ := rfl
  opened_setCall _ _ _ := rfl
  register_setCall _ _ _ := rfl

/-- The game of the feed. -/
def gameChannel : Channel (Option Bytes) where
  current := World.currentGame
  opened := World.gameOpened
  register := World.feedGame
  isOpen st := st = .streaming ∨ st = .live
  request := Thread.feedRequest
  opening := Thread.openingFeed
  succeeds := Outcome.feedSucceeds
  call := Call.feedPhase
  isOpen_online st h := by simpa using h
  opening_notCreated := rfl
  opening_stage := rfl
  request_notCreated := rfl
  request_stage _ := rfl
  call_idle k hk := by cases k <;> first | rfl | cases hk
  current_setCall _ _ _ := rfl
  opened_setCall _ _ _ := rfl
  register_setCall _ _ _ := rfl

/-- Where a client is whose request, if there is one, has been processed or not. -/
def requestPhase {V : Type} : Option (Stamped V) → Bool → Phase V
  | none, _ => .idle
  | some x, false => .sent x
  | some _, true => .served

section

variable {V : Type} (c : Channel V)

/-- The broadcast as a state of the publication protocol, with the thread and the
calls as its clients. -/
def Channel.view (s : World) : Publication.State V (Option ℕ) where
  current := c.current s
  opened := c.opened s
  closed := s.stopCall ≠ .notCalled
  register := c.register s
  phase
    | none => requestPhase (c.request s.thread) s.threadServed
    | some i => c.call (s.calls i)

/-- **The conditions on a step.**  A setter that finds the broadcast in the wrong state
before `stop` has stored its value before the thread read it, and the server
processes the requests in the order in which they read their values. -/
structure Channel.Ordered (s : World) (a : Action) : Prop where
  setter : ∀ i n o, c.call (s.calls i) = .wrote n → a = .call i o → c.isOpen s.state = false →
    s.stopCall = .notCalled → ∀ v, c.opened s = some v → n ≤ v
  thread : ∀ x y, c.request s.thread = some x → a = .serveThread → c.register s = some y →
    y.version ≤ x.version
  call : ∀ i x y, c.call (s.calls i) = .sent x → a = .serveCall i → c.register s = some y →
    y.version ≤ x.version

/-- The step lets no request fail. -/
structure Channel.Succeeds (s : World) (a : Action) : Prop where
  thread : ∀ x o, c.request s.thread = some x → a = .thread o → c.succeeds o = true
  call : ∀ i o, (∃ x, c.call (s.calls i) = .sent x) ∨ c.call (s.calls i) = .served →
    a = .call i o → o = .success

/-! The two conditions can be checked on a step. -/

def Channel.checkOrdered (s : World) : Action → Bool
  | .call i _ =>
      match c.call (s.calls i), c.opened s with
      | .wrote n, some v => c.isOpen s.state ∨ s.stopCall ≠ .notCalled ∨ n ≤ v
      | _, _ => true
  | .serveThread =>
      match c.request s.thread, c.register s with
      | some x, some y => y.version ≤ x.version
      | _, _ => true
  | .serveCall i =>
      match c.call (s.calls i), c.register s with
      | .sent x, some y => y.version ≤ x.version
      | _, _ => true
  | _ => true

def Channel.checkSucceeds (s : World) : Action → Bool
  | .thread o => (c.request s.thread).isNone ∨ c.succeeds o = true
  | .call i o =>
      match c.call (s.calls i) with
      | .sent _ | .served => o = .success
      | _ => true
  | _ => true

theorem Channel.ordered_of_check {s : World} {a : Action} (h : c.checkOrdered s a = true) :
    c.Ordered s a := by
  constructor
  · rintro i n o hi rfl hstate hstop v hv
    simpa [Channel.checkOrdered, hi, hv, hstate, hstop] using h
  · rintro x y hx rfl hy
    simpa [Channel.checkOrdered, hx, hy] using h
  · rintro i x y hi rfl hy
    simpa [Channel.checkOrdered, hi, hy] using h

theorem Channel.succeeds_of_check {s : World} {a : Action} (h : c.checkSucceeds s a = true) :
    c.Succeeds s a := by
  constructor
  · rintro x o hx rfl
    simpa [Channel.checkSucceeds, hx] using h
  · rintro i o (⟨x, hi⟩ | hi) rfl <;> simpa [Channel.checkSucceeds, hi] using h

theorem Channel.meets_ordered {tr : List (World × Action)}
    (h : (tr.all fun p => c.checkOrdered p.1 p.2) = true) : Machine.Meets c.Ordered tr :=
  fun p hp => c.ordered_of_check (List.all_eq_true.mp h p hp)

theorem Channel.meets_succeeds {tr : List (World × Action)}
    (h : (tr.all fun p => c.checkSucceeds p.1 p.2) = true) : Machine.Meets c.Succeeds tr :=
  fun p hp => c.succeeds_of_check (List.all_eq_true.mp h p hp)

/-- No call is publishing and the thread has no request in flight. -/
structure Channel.Quiet (s : World) : Prop where
  thread : c.request s.thread = none
  call : ∀ i, c.call (s.calls i) = .idle

end

/-! ## What the steps of others do -/

/-- The step leaves the values, what the thread has read of them, and the server alone. -/
structure SameUpdates (s s' : World) : Prop where
  title : s'.fullTitle = s.fullTitle
  game : s'.currentGame = s.currentGame
  titleOpened : s'.titleOpened = s.titleOpened
  gameOpened : s'.gameOpened = s.gameOpened
  stageTitle : s'.stageTitle = s.stageTitle
  feedGame : s'.feedGame = s.feedGame

/-- The step leaves the thread alone, or creates it. -/
def SameThread (s s' : World) : Prop :=
  s'.thread = s.thread ∧ s'.threadServed = s.threadServed ∨
    s.startCall ≠ .returned ∧ s'.thread = .stage .setupSubscription

/-- What a step of another than the thread does. -/
inductive Updates (s : World) : Action → World → Prop
  | storeTitle (a : Action) (i : ℕ) (title : Bytes) (rating : Rating) (hi : s.calls i = .idle) :
      Updates s a (({ s with title, rating, titleVersion := s.titleVersion + 1 }).setCall i
        (.titleStored (s.titleVersion + 1)))
  | storeGame (a : Action) (i : ℕ) (gameId : Bytes) (hi : s.calls i = .idle) :
      Updates s a (({ s with gameId, gameVersion := s.gameVersion + 1 }).setCall i
        (.gameStored (s.gameVersion + 1)))
  | call (i : ℕ) (o : Outcome) (c : Call) (hmoves : CallMoves s i o c) :
      Updates s (.call i o) (s.setCall i c)
  | serveTitle (i : ℕ) (x : Stamped Bytes) (hi : s.calls i = .titleSent x false) :
      Updates s (.serveCall i) (({ s with stageTitle := some x }).setCall i (.titleSent x true))
  | serveGame (i : ℕ) (x : Stamped (Option Bytes)) (quality : ConnectionQuality)
      (hi : s.calls i = .feedSent x quality false) :
      Updates s (.serveCall i)
        (({ s with feedGame := some x }).setCall i (.feedSent x quality true))
  | serveStart (x : Stamped Bytes) (hs : s.thread.titleRequest = some x)
      (hserved : s.threadServed = false) :
      Updates s .serveThread { s with threadServed := true, stageTitle := some x }
  | serveFeed (x : Stamped (Option Bytes)) (hs : s.thread.feedRequest = some x)
      (hserved : s.threadServed = false) :
      Updates s .serveThread { s with threadServed := true, feedGame := some x }
  | other (a : Action) {s' : World} (hsame : SameUpdates s s') (hthread : SameThread s s')
      (hcalls : ∀ i, s'.calls i = s.calls i ∨
        (s.calls i).publishes = false ∧ (s'.calls i).publishes = false)
      (hstop : s'.stopCall = s.stopCall ∨ s'.stopCall ≠ .notCalled) : Updates s a s'

section

variable {s s' : World} {a : Action} {o : Outcome} {out : List Event} {i : ℕ}

theorem sameUpdates_refl : SameUpdates s s := ⟨rfl, rfl, rfl, rfl, rfl, rfl⟩

/-- A step that leaves all calls alone. -/
theorem Updates.of_calls (hsame : SameUpdates s s') (hthread : SameThread s s')
    (hcalls : s'.calls = s.calls) (hstop : s'.stopCall = s.stopCall ∨ s'.stopCall ≠ .notCalled) :
    Updates s a s' :=
  .other a hsame hthread (fun i => .inl (congrFun hcalls i)) hstop

/-- A step of a call of `sendVideo`. -/
theorem Updates.of_video {c : Call} (hi : (s.calls i).publishes = false) (hc : c.publishes = false)
    (hsame : SameUpdates s s') (hthread : SameThread s s') (hcalls : s'.calls = s.calls)
    (hstop : s'.stopCall = s.stopCall) : Updates s a (s'.setCall i c) := by
  refine .other a ⟨hsame.title, hsame.game, hsame.titleOpened, hsame.gameOpened,
    hsame.stageTitle, hsame.feedGame⟩ hthread (fun j => ?_) (.inl hstop)
  by_cases hji : j = i
  · rw [hji, World.setCall_calls_self]
    exact .inr ⟨hi, hc⟩
  · rw [World.setCall_calls_of_ne s' c hji, hcalls]
    exact .inl rfl

/-- **Inversion of a step of another than the thread.** -/
theorem updates_of_step (ha : ∀ o, a ≠ .thread o) (h : s.step a = some (s', out)) :
    Updates s a s' := by
  have hsame : SameUpdates s s := sameUpdates_refl
  have hthread : SameThread s s := .inl ⟨rfl, rfl⟩
  cases otherMoves_of_step ha h with
  | createThread hc =>
      exact .of_calls ⟨rfl, rfl, rfl, rfl, rfl, rfl⟩ (.inr ⟨by rw [hc]; decide, rfl⟩) rfl
        (.inl rfl)
  | serveStart x hs hserved => exact .serveStart x (by rw [hs]; rfl) hserved
  | serveFeed x hs hserved =>
      have hrequest : s.thread.feedRequest = some x := by
        rcases hs with hs | hs
        · rw [hs]
          rfl
        · rw [hs]
          rfl
      exact .serveFeed x hrequest hserved
  | setTitle i title hi => exact .storeTitle _ i title s.rating hi
  | setRating i rating hi => exact .storeTitle _ i s.title rating hi
  | setGameId i gameId hi => exact .storeGame _ i gameId hi
  | sendVideo i width height hi honline =>
      exact .of_video (by rw [hi]; rfl) rfl hsame hthread rfl rfl
  | call i o c hmoves => exact .call i o c hmoves
  | frame i o hi hout => exact .of_video (by rw [hi]; rfl) rfl hsame hthread rfl rfl
  | screenshot i o taken hi hout =>
      exact .of_video (by rw [hi]; rfl) rfl ⟨rfl, rfl, rfl, rfl, rfl, rfl⟩ (.inl ⟨rfl, rfl⟩) rfl rfl
  | serveTitle i x hi => exact .serveTitle i x hi
  | serveGame i x quality hi => exact .serveGame i x quality hi
  | storeStopping | join | storeOffline =>
      exact .of_calls ⟨rfl, rfl, rfl, rfl, rfl, rfl⟩ (.inl ⟨rfl, rfl⟩) rfl (.inr (by simp))
  | nothing a ha hout => exact .of_calls hsame hthread rfl (.inl rfl)
  | start | raise | stageUpdate =>
      exact .of_calls ⟨rfl, rfl, rfl, rfl, rfl, rfl⟩ (.inl ⟨rfl, rfl⟩) rfl (.inl rfl)

end

/-! ## The broadcast runs the protocol -/

section

open Publication (Step)

variable {V : Type} {c : Channel V} {s s' : World} {a : Action} {o : Outcome} {i : ℕ} {k : Call}

theorem Channel.phase_setCall :
    (c.view (s.setCall i k)).phase = Function.update (c.view s).phase (some i) (c.call k) := by
  funext j
  rcases j with _ | j
  · rfl
  · by_cases hji : j = i
    · rw [hji, Function.update_self]
      show c.call ((s.setCall i k).calls i) = c.call k
      rw [World.setCall_calls_self]
    · rw [Function.update_of_ne (by simpa using hji)]
      show c.call ((s.setCall i k).calls j) = c.call (s.calls j)
      rw [World.setCall_calls_of_ne s k hji]

theorem Channel.view_setCall :
    c.view (s.setCall i k) =
      { c.view s with phase := Function.update (c.view s).phase (some i) (c.call k) } :=
  Publication.State.ext (c.current_setCall s i k) (c.opened_setCall s i k) rfl
    (c.register_setCall s i k) c.phase_setCall

/-- A call that goes on in the same phase. -/
theorem Channel.view_setCall_of_eq (hk : c.call k = c.call (s.calls i)) :
    c.view (s.setCall i k) = c.view s := by
  have hphase : Function.update (c.view s).phase (some i) (c.call k) = (c.view s).phase := by
    rw [hk]
    exact Function.update_eq_self (some i) (c.view s).phase
  rw [Channel.view_setCall, hphase]

/-- A step that takes no client of the channel on. -/
theorem Channel.phase_eq
    (hthread : requestPhase (c.request s'.thread) s'.threadServed =
      requestPhase (c.request s.thread) s.threadServed)
    (hcalls : ∀ i, c.call (s'.calls i) = c.call (s.calls i)) :
    (c.view s').phase = (c.view s).phase := by
  funext j
  rcases j with _ | j
  · exact hthread
  · exact hcalls j

/-- A step that takes the thread on. -/
theorem Channel.phase_thread {p : Phase V}
    (hp : requestPhase (c.request s'.thread) s'.threadServed = p) (hcalls : s'.calls = s.calls) :
    (c.view s').phase = Function.update (c.view s).phase none p := by
  funext j
  rcases j with _ | j
  · rw [Function.update_self]
    exact hp
  · rw [Function.update_of_ne (by simp)]
    show c.call (s'.calls j) = c.call (s.calls j)
    rw [hcalls]

/-- `stop` is where it was. -/
theorem Channel.closed_eq (hstop : s'.stopCall = s.stopCall) :
    (c.view s').closed = (c.view s).closed := by
  show decide _ = decide _
  rw [hstop]

/-- A step of the thread outside of the requests of the channel. -/
theorem Channel.view_thread {out : List Event} (hmoves : ThreadMoves s o s' out)
    (hcurrent : c.current s' = c.current s) (hopened : c.opened s' = c.opened s)
    (hregister : c.register s' = c.register s) (hold : c.request s.thread = none)
    (hnew : c.request s'.thread = none) : c.view s' = c.view s := by
  refine Publication.State.ext hcurrent hopened (c.closed_eq hmoves.stopCall_eq) hregister
    (c.phase_eq ?_ fun i => ?_)
  · rw [hold, hnew]
    rfl
  · rw [hmoves.calls_eq]

/-- The thread has its request answered. -/
theorem Channel.finish_thread {out : List Event} {x : Stamped V} (hmoves : ThreadMoves s o s' out)
    (hcurrent : c.current s' = c.current s) (hopened : c.opened s' = c.opened s)
    (hregister : c.register s' = c.register s) (hold : c.request s.thread = some x)
    (hserved : s.threadServed = true) (hnew : c.request s'.thread = none) :
    Step (c.view s) (c.view s') := by
  have hphase : (c.view s').phase = Function.update (c.view s).phase none .idle :=
    c.phase_thread (by rw [hnew]; rfl) hmoves.calls_eq
  have hview : c.view s' = { c.view s with phase := Function.update (c.view s).phase none .idle } :=
    Publication.State.ext hcurrent hopened (c.closed_eq hmoves.stopCall_eq) hregister hphase
  rw [hview]
  refine .finish none ?_
  show requestPhase (c.request s.thread) s.threadServed = .served
  rw [hold, hserved]
  rfl

/-- The thread reads the value and sends it. -/
theorem Channel.open_thread {out : List Event} (hmoves : ThreadMoves s o s' out)
    (hcurrent : c.current s' = c.current s)
    (hopened : c.opened s' = some (c.current s).version)
    (hregister : c.register s' = c.register s) (hold : c.request s.thread = none)
    (hnew : c.request s'.thread = some (c.current s)) (hserved : s'.threadServed = false) :
    Step (c.view s) (c.view s') := by
  have hphase : (c.view s').phase = Function.update (c.view s).phase none (.sent (c.current s)) :=
    c.phase_thread (by rw [hnew, hserved]; rfl) hmoves.calls_eq
  have hview : c.view s' = { c.view s with
      opened := some (c.current s).version
      phase := Function.update (c.view s).phase none (.sent (c.current s)) } :=
    Publication.State.ext hcurrent hopened (c.closed_eq hmoves.stopCall_eq) hregister hphase
  rw [hview]
  refine .openWith none ?_
  show requestPhase (c.request s.thread) s.threadServed = .idle
  rw [hold]
  rfl

/-- The thread reads the value and sends it once it has opened the channel. -/
theorem Channel.publish_thread {out : List Event} (hmoves : ThreadMoves s o s' out)
    (hcurrent : c.current s' = c.current s) (hopened : c.opened s' = c.opened s)
    (hregister : c.register s' = c.register s) (hold : c.request s.thread = none)
    (hnew : c.request s'.thread = some (c.current s)) (hserved : s'.threadServed = false) :
    Relation.ReflTransGen Step (c.view s) (c.view s') := by
  have hphase : (c.view s').phase = Function.update (c.view s).phase none (.sent (c.current s)) :=
    c.phase_thread (by rw [hnew, hserved]; rfl) hmoves.calls_eq
  have hview : c.view s' = { c.view s with
      phase := Function.update (Function.update (c.view s).phase none .reading) none
        (.sent (c.current s)) } := by
    rw [Function.update_idem]
    exact Publication.State.ext hcurrent hopened (c.closed_eq hmoves.stopCall_eq) hregister hphase
  have hidle : (c.view s).phase none = .idle := by
    show requestPhase (c.request s.thread) s.threadServed = .idle
    rw [hold]
    rfl
  rw [hview]
  refine (Relation.ReflTransGen.single (.start none hidle)).tail (.read none ?_)
  exact Function.update_self none .reading (c.view s).phase

/-- A setter does not publish. -/
theorem Channel.Ordered.drop {n : ℕ} (h : c.Ordered s (.call i o))
    (hi : c.call (s.calls i) = .wrote n) (hk : c.call k = .idle)
    (hstate : c.isOpen s.state = false) :
    Step (c.view s) (c.view (s.setCall i k)) := by
  rw [Channel.view_setCall, hk]
  refine .drop (some i) n hi ?_
  by_cases hstop : s.stopCall = .notCalled
  · exact .inr fun v hv => h.setter i n o hi rfl hstate hstop v hv
  · exact .inl (decide_eq_true hstop)

/-- A setter publishes. -/
theorem Channel.commit {n : ℕ} (hi : c.call (s.calls i) = .wrote n) (hk : c.call k = .reading) :
    Step (c.view s) (c.view (s.setCall i k)) := by
  rw [Channel.view_setCall, hk]
  exact .commit (some i) n hi

/-- A call reads the value and sends it. -/
theorem Channel.read (hi : c.call (s.calls i) = .reading) (hk : c.call k = .sent (c.current s)) :
    Step (c.view s) (c.view (s.setCall i k)) := by
  rw [Channel.view_setCall, hk]
  exact .read (some i) hi

/-- A call has its request answered. -/
theorem Channel.finish (hi : c.call (s.calls i) = .served) (hk : c.call k = .idle) :
    Step (c.view s) (c.view (s.setCall i k)) := by
  rw [Channel.view_setCall, hk]
  exact .finish (some i) hi

/-- A call whose request succeeds has it answered. -/
theorem Channel.Succeeds.finish {x : Stamped V} {served : Bool} (h : c.Succeeds s (.call i o))
    (hi : c.call (s.calls i) = requestPhase (some x) served) (ho : o = .success → served = true)
    (hk : c.call k = .idle) : Step (c.view s) (c.view (s.setCall i k)) := by
  have hserved : served = true := by
    refine ho (h.call i o ?_ rfl)
    rw [hi]
    rcases served with _ | _
    · exact .inl ⟨x, rfl⟩
    · exact .inr rfl
  exact Channel.finish (by rw [hi, hserved]; rfl) hk

/-- The server processes the request of a call. -/
theorem Channel.Ordered.serve_call {x : Stamped V} (h : c.Ordered s (.serveCall i))
    (hi : c.call (s.calls i) = .sent x) (hk : c.call k = .served)
    (hcurrent : c.current s' = c.current s) (hopened : c.opened s' = c.opened s)
    (hregister : c.register s' = some x) (hstop : s'.stopCall = s.stopCall)
    (hthread : s'.thread = s.thread) (hserved : s'.threadServed = s.threadServed)
    (hcalls : s'.calls = s.calls) : Step (c.view s) (c.view (s'.setCall i k)) := by
  have hphase : (c.view s').phase = (c.view s).phase :=
    c.phase_eq (by rw [hthread, hserved]) fun j => by rw [hcalls]
  have hview : c.view (s'.setCall i k) = { c.view s with
      register := some x, phase := Function.update (c.view s).phase (some i) .served } := by
    rw [Channel.view_setCall, hphase, hk]
    exact Publication.State.ext hcurrent hopened (c.closed_eq hstop) hregister rfl
  rw [hview]
  exact .serve (some i) x hi fun y hy => h.call i x y hi rfl hy

/-- The server processes the request of the thread. -/
theorem Channel.Ordered.serve_thread {x : Stamped V} (h : c.Ordered s .serveThread)
    (hrequest : c.request s.thread = some x) (hserved : s.threadServed = false)
    (hcurrent : c.current s' = c.current s) (hopened : c.opened s' = c.opened s)
    (hregister : c.register s' = some x) (hstop : s'.stopCall = s.stopCall)
    (hthread : s'.thread = s.thread) (hserved' : s'.threadServed = true)
    (hcalls : s'.calls = s.calls) : Step (c.view s) (c.view s') := by
  have hview : c.view s' = { c.view s with
      register := some x, phase := Function.update (c.view s).phase none .served } :=
    Publication.State.ext hcurrent hopened (c.closed_eq hstop) hregister
      (c.phase_thread (by rw [hthread, hrequest, hserved']; rfl) hcalls)
  rw [hview]
  refine .serve none x ?_ fun y hy => h.thread x y hrequest rfl hy
  show requestPhase (c.request s.thread) s.threadServed = .sent x
  rw [hrequest, hserved]
  rfl

/-- The server processes a request of the thread that is not of the channel. -/
theorem Channel.view_serveThread (hrequest : c.request s.thread = none)
    (hcurrent : c.current s' = c.current s) (hopened : c.opened s' = c.opened s)
    (hregister : c.register s' = c.register s) (hstop : s'.stopCall = s.stopCall)
    (hthread : s'.thread = s.thread) (hcalls : s'.calls = s.calls) : c.view s' = c.view s := by
  refine Publication.State.ext hcurrent hopened (c.closed_eq hstop) hregister
    (c.phase_eq ?_ fun i => ?_)
  · rw [hthread, hrequest]
    rfl
  · rw [hcalls]

/-- A setter stores a value. -/
theorem Channel.write {v : V} (hi : c.call (s.calls i) = .idle)
    (hcurrent : c.current s' = ⟨v, (c.current s).version + 1⟩)
    (hopened : c.opened s' = c.opened s) (hregister : c.register s' = c.register s)
    (hstop : s'.stopCall = s.stopCall) (hthread : s'.thread = s.thread)
    (hserved : s'.threadServed = s.threadServed) (hcalls : s'.calls = s.calls)
    (hk : c.call k = .wrote ((c.current s).version + 1)) :
    Step (c.view s) (c.view (s'.setCall i k)) := by
  have hphase : (c.view s').phase = (c.view s).phase :=
    c.phase_eq (by rw [hthread, hserved]) fun j => by rw [hcalls]
  have hview : c.view (s'.setCall i k) = { c.view s with
      current := ⟨v, (c.current s).version + 1⟩
      phase := Function.update (c.view s).phase (some i)
        (.wrote ((c.current s).version + 1)) } := by
    rw [Channel.view_setCall, hphase, hk]
    exact Publication.State.ext hcurrent hopened (c.closed_eq hstop) hregister rfl
  rw [hview]
  exact .write (some i) v hi

/-- Another step leaves the channel alone, or is of `stop`. -/
theorem Channel.view_other (hcurrent : c.current s' = c.current s)
    (hopened : c.opened s' = c.opened s) (hregister : c.register s' = c.register s)
    (hcreated : s.startCall ≠ .returned → s.thread = .notCreated) (hthread : SameThread s s')
    (hcalls : ∀ i, s'.calls i = s.calls i ∨
      (s.calls i).publishes = false ∧ (s'.calls i).publishes = false)
    (hstop : s'.stopCall = s.stopCall ∨ s'.stopCall ≠ .notCalled) :
    c.view s' = c.view s ∨ Step (c.view s) (c.view s') := by
  have hphase : (c.view s').phase = (c.view s).phase := by
    refine c.phase_eq ?_ fun j => ?_
    · rcases hthread with ⟨ht, hserved⟩ | ⟨hstart, ht⟩
      · rw [ht, hserved]
      · -- the thread is created, without a request
        rw [ht, hcreated hstart, c.request_stage, c.request_notCreated]
        rfl
    · rcases hcalls j with h | ⟨h, h'⟩
      · rw [h]
      · rw [c.call_idle _ h, c.call_idle _ h']
  rcases hstop with hstop | hstop
  · exact .inl (Publication.State.ext hcurrent hopened (c.closed_eq hstop) hregister hphase)
  · have hview : c.view s' = { c.view s with closed := true } :=
      Publication.State.ext hcurrent hopened (decide_eq_true hstop) hregister hphase
    rw [hview]
    exact .inr .close

/-- The broadcast goes by the protocol for the channel: its steps are steps of the
protocol, and it is opened before it is open. -/
structure Channel.Lawful (c : Channel V) : Prop where
  fresh : ∀ title rating gameId, (c.view (World.init title rating gameId)).Fresh
  threadMoves : ∀ {s o s' out}, c.Succeeds s (.thread o) → ThreadMoves s o s' out →
    Relation.ReflTransGen Step (c.view s) (c.view s')
  updates : ∀ {s a s'}, c.Ordered s a → c.Succeeds s a →
    (s.startCall ≠ .returned → s.thread = .notCreated) → Updates s a s' →
    c.view s' = c.view s ∨ Step (c.view s) (c.view s')
  opened_threadMoves : ∀ {s o s' out}, ThreadMoves s o s' out →
    (c.isOpen s.state = true ∨ c.opening s.thread = true → (c.opened s).isSome = true) →
    c.isOpen s'.state = true ∨ c.opening s'.thread = true → (c.opened s').isSome = true
  opened_updates : ∀ {s a s'}, Updates s a s' → c.opened s' = c.opened s

/-- Only the thread brings a broadcast online or goes on itself. -/
theorem Moves.cases_other {out : List Event} (ha : ∀ o, a ≠ .thread o) (hmoves : Moves s a s' out) :
    (s'.state = s.state ∨ s'.isOnline = false) ∧
      (s'.thread = s.thread ∨ s'.thread = .stage .setupSubscription) := by
  cases hmoves with
  | thread h => exact absurd rfl (ha _)
  | start hc =>
      refine ⟨?_, .inl rfl⟩
      by_cases hoff : s.state = .offline
      · exact .inr (by simp [World.isOnline, hoff])
      · exact .inl (if_neg hoff)
  | createThread hc => exact ⟨.inl rfl, .inr rfl⟩
  | raise hc => exact ⟨.inl rfl, .inl rfl⟩
  | storeStopping hc hr => exact ⟨.inr rfl, .inl rfl⟩
  | join hc hj => exact ⟨.inl rfl, .inl rfl⟩
  | storeOffline hc => exact ⟨.inr rfl, .inl rfl⟩
  | other a ha hcore hvideo hout => exact ⟨.inl hcore.state, .inl hcore.thread⟩

section

variable {title gameId : Bytes} {rating : Rating} {tr : List (World × Action)} {es : List Event}

/-- A channel that is open has been opened. -/
theorem Channel.Lawful.opened (hc : c.Lawful) (h : Runs title rating gameId tr es s) :
    c.isOpen s.state = true ∨ c.opening s.thread = true → (c.opened s).isSome = true := by
  refine Machine.Run.invariant (I := fun s =>
    c.isOpen s.state = true ∨ c.opening s.thread = true → (c.opened s).isSome = true) ?_ ?_ h
  · rintro (hopen | hopen)
    · rcases c.isOpen_online _ hopen with h | h <;> cases h
    · have := hopen.symm.trans c.opening_notCreated
      cases this
  · intro s a s' out hi hs
    by_cases ha : ∃ o, a = .thread o
    · obtain ⟨o, rfl⟩ := ha
      exact hc.opened_threadMoves (threadMoves_of_threadStep hs) hi
    · have ha : ∀ o, a ≠ .thread o := fun o h => ha ⟨o, h⟩
      obtain ⟨hstate, hthread⟩ := (moves_of_step hs).cases_other ha
      rw [hc.opened_updates (updates_of_step ha hs)]
      refine fun hopen => hi (hopen.imp (fun hopen => ?_) fun hopen => ?_)
      · rcases hstate with hstate | hstate
        · rwa [hstate] at hopen
        · have := World.isOnline_iff.mpr (c.isOpen_online _ hopen)
          rw [hstate] at this
          cases this
      · rcases hthread with hthread | hthread
        · rwa [hthread] at hopen
        · rw [hthread, c.opening_stage] at hopen
          cases hopen

/-- **Run lemma.**  Every state of the broadcast is one the protocol gets to. -/
theorem Channel.Lawful.reachable_view (hc : c.Lawful) (h : Runs title rating gameId tr es s)
    (hordered : Machine.Meets c.Ordered tr) (hok : Machine.Meets c.Succeeds tr) :
    Publication.Reachable (c.view s) := by
  refine ⟨_, hc.fresh title rating gameId, (Machine.Run.induction_on_steps
    (C := fun s a => c.Ordered s a ∧ c.Succeeds s a) (I := fun _ s =>
      (s.thread ≠ .notCreated → s.startCall = .returned) ∧
        Relation.ReflTransGen Step (c.view (World.init title rating gameId)) (c.view s))
    ⟨fun hne => absurd rfl hne, .refl⟩ ?_ h fun p hp => ⟨hordered p hp, hok p hp⟩).2⟩
  rintro - s a s' out ⟨hcreated, hsteps⟩ ⟨hordered, hok⟩ hs
  refine ⟨Moves.startCall_of_thread hcreated (moves_of_step hs), hsteps.trans ?_⟩
  by_cases ha : ∃ o, a = .thread o
  · obtain ⟨o, rfl⟩ := ha
    exact hc.threadMoves hok (threadMoves_of_threadStep hs)
  · rcases hc.updates hordered hok (not_imp_comm.mp hcreated)
      (updates_of_step (fun o h => ha ⟨o, h⟩) hs) with hview | hstep
    · rw [hview]
    · exact .single hstep

/-- **No lost update.**  Where every step meets the conditions and lets no request fail,
the server holds the current value whenever the channel is open and quiet. -/
theorem Channel.Lawful.register_of_quiet (hc : c.Lawful) (h : Runs title rating gameId tr es s)
    (hordered : Machine.Meets c.Ordered tr) (hok : Machine.Meets c.Succeeds tr)
    (hopen : c.isOpen s.state = true) (hquiet : c.Quiet s) :
    c.register s = some (c.current s) := by
  -- an open channel is one of an online broadcast, which has not been stopped
  have hnot : s.stopCall = .notCalled := by
    by_contra hstop
    have hon := c.isOpen_online _ hopen
    rcases h.stateInv.not_online hstop with hst | hst <;> simp [hst] at hon
  refine (hc.reachable_view h hordered hok).register_of_quiet (fun j => ?_) (fun hnone => ?_)
    (decide_eq_false (not_not.mpr hnot))
  · rcases j with _ | j
    · show requestPhase (c.request s.thread) s.threadServed = .idle
      rw [hquiet.thread]
      rfl
    · exact hquiet.call j
  · have hsome := hc.opened h (.inl hopen)
    have hnone : c.opened s = none := hnone
    rw [hnone] at hsome
    cases hsome

end

end

end Caff
