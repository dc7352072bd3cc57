/-
# Setting up the peer connection

What WebRTC tells the observers of a broadcast while the body of `start` sets up the peer
connection: the offer, whether the two descriptions have been set, the candidates, and the
states of the connection.  `Broadcast.lean` lets each wait of the thread end either way.  Here
the thread finds what the promise of the observer has been given, if anything in time, and it
sends the candidates that are gathered by then.  Both machines have the same runs.
-/
import Caffeine.RequestAnswers
import Caffeine.BroadcastRegions

namespace Caff

open Http Json

/-! ## The observers -/

/-- The `promise` of an observer: there with the observer, and given a value once. -/
inductive Promise (α : Type)
  | notMade
  | unset
  | value (v : α)
  deriving DecidableEq, Repr

namespace Promise

variable {α : Type}

/-- The observer is there. -/
def make : Promise α → Promise α
  | notMade => unset
  | p => p

/-- `set_value`, which throws if there is a value. -/
def setValue (p : Promise α) (v : α) : Option (Promise α) :=
  match p with
  | unset => some (value v)
  | _ => none

/-- There is a value by now, and `f` holds of it. -/
def satisfies (p : Promise α) (f : α → Bool) : Bool :=
  match p with
  | value v => f v
  | _ => false

/-- There is a value. -/
def isSet (p : Promise α) : Bool := p.satisfies fun _ => true

@[simp] theorem isSet_make (p : Promise α) : p.make.isSet = p.isSet := by
  cases p <;> rfl

/-- A promise is given a value before it has one. -/
theorem setValue_eq_some_iff {p p' : Promise α} {v : α} :
    p.setValue v = some p' ↔ p = unset ∧ p' = value v := by
  cases p with
  | unset => simp [setValue, eq_comm]
  | _ => simp [setValue]

end Promise

/-- A `webrtc::SessionDescriptionInterface`: its `type`, and its text if it has one. -/
structure SessionDescription where
  type : String
  text : Option Bytes
  deriving DecidableEq, Repr

/-- A `webrtc::IceCandidateInterface`, whose text can be missing too. -/
structure IceCandidate where
  text : Option Bytes
  sdpMid : Bytes
  sdpMLineIndex : ℤ
  deriving DecidableEq, Repr

inductive IceConnectionState
  | new
  | checking
  | connected
  | completed
  | failed
  | disconnected
  | closed
  | invalid
  deriving DecidableEq, Repr

inductive IceGatheringState
  | new
  | gathering
  | complete
  | invalid
  deriving DecidableEq, Repr

/-- The `IceInfo` of a candidate that has a text. -/
def IceCandidate.info (candidate : IceCandidate) : Option IceInfo :=
  candidate.text.map fun sdp => ⟨sdp, candidate.sdpMid, candidate.sdpMLineIndex⟩

/-- The members of a `PeerConnectionObserver`.  The promise holds a reference to the
candidates. -/
structure PeerConnectionObserver where
  gatheredCandidates : List IceInfo := []
  promise : Promise Unit := .unset
  deriving DecidableEq, Repr

namespace PeerConnectionObserver

/-- `OnIceCandidate`. -/
def onIceCandidate (observer : PeerConnectionObserver) (candidate : IceCandidate) :
    PeerConnectionObserver :=
  match candidate.info with
  | some info => { observer with gatheredCandidates := observer.gatheredCandidates ++ [info] }
  | none => observer

/-- `OnIceGatheringChange`. -/
def onIceGatheringChange (observer : PeerConnectionObserver) :
    IceGatheringState → Option PeerConnectionObserver
  | .complete => (observer.promise.setValue ()).map fun promise => { observer with promise }
  | _ => some observer

/-- `OnIceConnectionChange`: what it reports. -/
def onIceConnectionChange : IceConnectionState → List Event
  | .failed => [.failureReported .peerConnection .broadcastFailed]
  | _ => []

end PeerConnectionObserver

/-! ## The broadcast with its observers -/

structure Negotiation where
  world : World
  creationObserver : Promise (Option SessionDescription) := .notMade
  setLocalObserver : Promise Bool := .notMade
  observer : PeerConnectionObserver := {}
  setRemoteObserver : Promise Bool := .notMade

/-- A broadcast as constructed. -/
def Negotiation.init (title : Bytes) (rating : Rating) (gameId : Bytes) : Negotiation :=
  { world := .init title rating gameId }

/-- As the actions of a broadcast, with what WebRTC tells the observers.  The thread comes back
from its `wait` for one of them (`parsed`: `CreateSessionDescription` reads the offer), and
sends the candidates over a network. -/
inductive NegotiationAction
  | descriptionCreated (description : Option SessionDescription)
  | localDescriptionSet (succeeded : Bool)
  | remoteDescriptionSet (succeeded : Bool)
  | iceCandidate (candidate : IceCandidate)
  | iceGatheringChange (newState : IceGatheringState)
  | iceConnectionChange (newState : IceConnectionState)
  | wait (parsed : Bool)
  | trickle (n : Network)
  | other (a : Action)

/-- The request for the candidates. -/
def trickleRequest (candidates : List IceInfo) (depth : ℕ) : Http Credentials Outcome := do
  let succeeded ← trickleCandidates candidates depth
  pure (.ofBool succeeded)

/-- The offer goes on to be the local description. -/
def takesOffer (parsed : Bool) : Option SessionDescription → Bool
  | none => false
  | some offer => offer.type = "offer" && offer.text.isSome && parsed

namespace Negotiation

/-- What the thread finds when it is through with waiting for an observer. -/
def found (s : Negotiation) (parsed : Bool) : Option Outcome :=
  match s.world.thread with
  | .stage .awaitOffer => some (.ofBool (s.creationObserver.satisfies (takesOffer parsed)))
  | .stage .setLocalDescription => some (.ofBool (s.setLocalObserver.satisfies id))
  | .stage .awaitCandidates => some (.ofBool s.observer.promise.isSet)
  | .stage .setRemoteDescription => some (.ofBool (s.setRemoteObserver.satisfies id))
  | _ => none

/-- The action is up to the observers, or to the request for the candidates. -/
def decides (s : Negotiation) : Action → Bool
  | .iceConnectionFailed => true
  | .thread o => s.world.thread = .stage .trickleCandidates ∨ (s.found true).isSome ∧ o ≠ .raised
  | _ => false

/-- The action of the broadcast, unless it is one of WebRTC that the broadcast does not see. -/
def read (s : Negotiation) : NegotiationAction → Option Action
  | .iceConnectionChange .failed => some .iceConnectionFailed
  | .wait parsed => (s.found parsed).map .thread
  | .trickle n =>
      if s.world.thread = .stage .trickleCandidates then
        (n.outcome (trickleRequest s.observer.gatheredCandidates)).map .thread
      else none
  | .other a => if s.decides a then none else some a
  | _ => none

/-- The broadcast goes on to `w`, and has made the observer the thread waits for there. -/
def advance (s : Negotiation) (w : World) : Negotiation :=
  match w.thread with
  | .stage .awaitOffer => { s with world := w, creationObserver := s.creationObserver.make }
  | .stage .setLocalDescription =>
      { s with world := w, setLocalObserver := s.setLocalObserver.make }
  | .stage .setRemoteDescription =>
      { s with world := w, setRemoteObserver := s.setRemoteObserver.make }
  | _ => { s with world := w }

/-- A peer connection calls its observer. -/
def step (s : Negotiation) : NegotiationAction → Option (Negotiation × List Event)
  | .descriptionCreated description =>
      (s.creationObserver.setValue description).map fun creationObserver =>
        ({ s with creationObserver }, [])
  | .localDescriptionSet succeeded =>
      (s.setLocalObserver.setValue succeeded).map fun setLocalObserver =>
        ({ s with setLocalObserver }, [])
  | .remoteDescriptionSet succeeded =>
      (s.setRemoteObserver.setValue succeeded).map fun setRemoteObserver =>
        ({ s with setRemoteObserver }, [])
  | .iceCandidate candidate =>
      if s.world.peerConnection then
        some ({ s with observer := s.observer.onIceCandidate candidate }, [])
      else none
  | .iceGatheringChange newState =>
      if s.world.peerConnection then
        (s.observer.onIceGatheringChange newState).map fun observer => ({ s with observer }, [])
      else none
  | .iceConnectionChange newState =>
      if s.world.peerConnection then
        some (s, PeerConnectionObserver.onIceConnectionChange newState)
      else none
  | a => (s.read a).bind fun action => (s.world.step action).map fun r => (s.advance r.1, r.2)

end Negotiation

/-- A broadcast with its observers as a machine. -/
def negotiationMachine : Machine Negotiation NegotiationAction Event := ⟨Negotiation.step⟩

/-! ## Its steps -/

section

variable {s s' : Negotiation} {a : NegotiationAction} {action : Action} {out : List Event}

@[simp] theorem Negotiation.world_advance (s : Negotiation) (w : World) :
    (s.advance w).world = w := by
  unfold Negotiation.advance
  split <;> rfl

theorem Negotiation.observer_advance (s : Negotiation) (w : World) :
    (s.advance w).observer = s.observer := by
  unfold Negotiation.advance
  split <;> rfl

/-- A step that the broadcast sees, but for a failed connection. -/
theorem exists_of_bind_step
    (h : (s.read a).bind (fun action => (s.world.step action).map fun r => (s.advance r.1, r.2)) =
      some (s', out)) :
    ∃ action w, s.read a = some action ∧ s.world.step action = some (w, out) ∧
      s' = s.advance w := by
  obtain ⟨action, hread, h⟩ := Option.bind_eq_some_iff.mp h
  obtain ⟨⟨w, out'⟩, hs, heq⟩ := Option.map_eq_some_iff.mp h
  rw [Prod.mk.injEq] at heq
  obtain ⟨rfl, rfl⟩ := heq
  exact ⟨action, w, hread, hs, rfl⟩

/-- **What one step can do.**  WebRTC calls an observer, or the broadcast takes a step. -/
inductive NegotiationMoves (s : Negotiation) :
    NegotiationAction → Negotiation → List Event → Prop
  | descriptionCreated (description : Option SessionDescription)
      (hunset : s.creationObserver = .unset) :
      NegotiationMoves s (.descriptionCreated description)
        { s with creationObserver := .value description } []
  | localDescriptionSet (succeeded : Bool) (hunset : s.setLocalObserver = .unset) :
      NegotiationMoves s (.localDescriptionSet succeeded)
        { s with setLocalObserver := .value succeeded } []
  | remoteDescriptionSet (succeeded : Bool) (hunset : s.setRemoteObserver = .unset) :
      NegotiationMoves s (.remoteDescriptionSet succeeded)
        { s with setRemoteObserver := .value succeeded } []
  | iceCandidate (candidate : IceCandidate) :
      NegotiationMoves s (.iceCandidate candidate)
        { s with observer := s.observer.onIceCandidate candidate } []
  | gathered (hunset : s.observer.promise = .unset) :
      NegotiationMoves s (.iceGatheringChange .complete)
        { s with observer := { s.observer with promise := .value () } } []
  | gathering (newState : IceGatheringState) :
      NegotiationMoves s (.iceGatheringChange newState) s []
  | iceConnectionChange (newState : IceConnectionState) (hnew : newState ≠ .failed) :
      NegotiationMoves s (.iceConnectionChange newState) s []
  | iceConnectionFailed (hpeer : s.world.peerConnection = true) :
      NegotiationMoves s (.iceConnectionChange .failed) s
        [.failureReported .peerConnection .broadcastFailed]
  | world (a : NegotiationAction) (action : Action) (w : World) {out : List Event}
      (hread : s.read a = some action) (hs : s.world.step action = some (w, out)) :
      NegotiationMoves s a (s.advance w) out

/-- **Inversion of a step.** -/
theorem negotiationMoves_of_step (h : s.step a = some (s', out)) :
    NegotiationMoves s a s' out := by
  cases a with
  | descriptionCreated description =>
      obtain ⟨p, hp, heq⟩ := Option.map_eq_some_iff.mp h
      obtain ⟨hunset, rfl⟩ := Promise.setValue_eq_some_iff.mp hp
      cases heq
      exact .descriptionCreated description hunset
  | localDescriptionSet succeeded =>
      obtain ⟨p, hp, heq⟩ := Option.map_eq_some_iff.mp h
      obtain ⟨hunset, rfl⟩ := Promise.setValue_eq_some_iff.mp hp
      cases heq
      exact .localDescriptionSet succeeded hunset
  | remoteDescriptionSet succeeded =>
      obtain ⟨p, hp, heq⟩ := Option.map_eq_some_iff.mp h
      obtain ⟨hunset, rfl⟩ := Promise.setValue_eq_some_iff.mp hp
      cases heq
      exact .remoteDescriptionSet succeeded hunset
  | iceCandidate candidate =>
      rw [Negotiation.step] at h
      exact Machine.holds_of_guard h fun _ => .iceCandidate candidate
  | iceGatheringChange newState =>
      rw [Negotiation.step] at h
      split at h
      · cases newState with
        | complete =>
            obtain ⟨observer, hobserver, heq⟩ := Option.map_eq_some_iff.mp h
            obtain ⟨p, hp, rfl⟩ := Option.map_eq_some_iff.mp hobserver
            obtain ⟨hunset, rfl⟩ := Promise.setValue_eq_some_iff.mp hp
            cases heq
            exact .gathered hunset
        | _ =>
            cases h
            exact .gathering _
      · cases h
  | iceConnectionChange newState =>
      rw [Negotiation.step] at h
      refine Machine.holds_of_guard h fun hpeer => ?_
      cases newState with
      | failed => exact .iceConnectionFailed hpeer
      | _ => exact .iceConnectionChange _ (by simp)
  | _ =>
      obtain ⟨action, w, hread, hs, rfl⟩ := exists_of_bind_step h
      exact .world _ action w hread hs

theorem negotiationMachine_extends :
    Machine.Extends negotiationMachine broadcastMachine Negotiation.world Negotiation.read where
  visible s a action s' out hread hs := by
    cases negotiationMoves_of_step hs with
    | world a action' w hread' hs =>
        rw [hread', Option.some.injEq] at hread
        rw [← hread, Negotiation.world_advance]
        exact hs
    | iceConnectionFailed hpeer =>
        rw [Negotiation.read, Option.some.injEq] at hread
        rw [← hread]
        show (if s.world.peerConnection then some (s.world, _) else none) = _
        rw [if_pos hpeer]
    | iceConnectionChange newState hnew =>
        cases newState with
        | failed => exact absurd rfl hnew
        | _ => cases hread
    | _ => cases hread
  silent s a s' out hread hs := by
    cases negotiationMoves_of_step hs with
    | world a action w hread' hs => simp [hread'] at hread
    | iceConnectionFailed hpeer => cases hread
    | _ => exact ⟨rfl, rfl⟩

end

/-! ## How far the thread has come -/

/-- The waits that the thread has behind it; 7 behind its start, and where it has given up. -/
def Thread.position : Thread → ℕ
  | .notCreated | .stage .setupSubscription | .stage .createVideoTrack
  | .stage .createPeerConnection => 0
  | .stage .awaitOffer => 1
  | .stage .setLocalDescription => 2
  | .requireStarting | .readFeedInput | .addFeed _ | .stage .createRemoteDescription
  | .stage .awaitCandidates => 3
  | .stage .trickleCandidates => 4
  | .stage .setRemoteDescription => 5
  | .stage .addStatsObserver | .goStreaming | .startedCallback => 6
  | _ => 7

theorem Thread.position_le (t : Thread) : t.position ≤ 7 := by
  unfold Thread.position
  split <;> omega

section

variable {s s' : World} {o : Outcome} {a : Action} {out : List Event}

/-- The thread stays where it is, passes a wait, or is through. -/
theorem ThreadMoves.position (h : ThreadMoves s o s' out) :
    s'.thread.position = s.thread.position ∨ s'.thread.position = 7 ∨
      ∃ p, s.thread = .stage p ∧ o = .success ∧ s'.thread = p.next ∧
        s'.thread.position = s.thread.position + 1 := by
  cases h with
  | advance p hs hok => cases p <;> simp [hs, Thread.position, Stage.next]
  | giveUp o p error exit hs ho hg =>
      have hexit : exit.position = 7 := by
        cases p <;> simp [Stage.giveUp] at hg <;> rw [← hg.2] <;> rfl
      exact .inr (.inl hexit)
  | enterFeed hs hstate => exact .inl (by rw [hs]; rfl)
  | sendFeed hs => exact .inl (by rw [hs]; rfl)
  | feedAdded x id url hs hserved => exact .inl (by rw [hs]; rfl)
  | goStreaming hs hstate => exact .inl (by rw [hs]; rfl)
  | _ => exact .inr (.inl rfl)

/-- Nobody else moves it on. -/
theorem Moves.position (h : Moves s a s' out)
    (hcreated : s.thread ≠ .notCreated → s.startCall = .returned) :
    (∃ o, a = .thread o ∧ ThreadMoves s o s' out) ∨
      s'.thread.position = s.thread.position := by
  rcases h.cases_thread with ⟨o, ha, hmoves, -⟩ | ⟨-, -, hsame | ⟨hc, hnew⟩⟩
  · exact .inl ⟨o, ha, hmoves⟩
  · exact .inr (by rw [hsame])
  · have hnot : s.thread = .notCreated := by
      by_contra hne
      rw [hcreated hne] at hc
      cases hc
    exact .inr (by rw [hnew, hnot]; rfl)

theorem Moves.position_le (h : Moves s a s' out)
    (hcreated : s.thread ≠ .notCreated → s.startCall = .returned) :
    s.thread.position ≤ s'.thread.position := by
  rcases h.position hcreated with ⟨o, -, hmoves⟩ | hsame
  · rcases hmoves.position with hsame | hthrough | ⟨p, -, -, -, hnext⟩
    · exact hsame.ge
    · exact hthrough ▸ s.thread.position_le
    · exact hnext ▸ Nat.le_succ _
  · exact hsame.ge

end

/-! ## Every answer can be told -/

namespace Negotiation

/-- The observer the thread waits for is there. -/
structure Made (s : Negotiation) : Prop where
  creation : s.world.thread = .stage .awaitOffer → s.creationObserver ≠ .notMade
  setLocal : s.world.thread = .stage .setLocalDescription → s.setLocalObserver ≠ .notMade
  setRemote : s.world.thread = .stage .setRemoteDescription → s.setRemoteObserver ≠ .notMade

/-- Nothing has been told yet that the thread waits for behind `k` waits. -/
structure Untold (s : Negotiation) (k : ℕ) : Prop where
  creation : k ≤ 1 → s.creationObserver.isSet = false
  setLocal : k ≤ 2 → s.setLocalObserver.isSet = false
  gathered : k ≤ 3 → s.observer.promise = .unset
  setRemote : k ≤ 5 → s.setRemoteObserver.isSet = false

/-- WebRTC has told no more than the thread has asked for, and no candidate. -/
structure Fresh (s : Negotiation) : Prop where
  made : s.Made
  untold : s.Untold s.world.thread.position
  candidates : s.observer.gatheredCandidates = []
  created : s.world.thread ≠ .notCreated → s.world.startCall = .returned
  stateInv : StateInv s.world

section

variable {s s' : Negotiation} {w : World} {a : NegotiationAction} {action : Action} {o : Outcome}
  {out : List Event} {k m : ℕ}

theorem made_advance (s : Negotiation) (w : World) : (s.advance w).Made := by
  constructor <;> intro hs <;> rw [world_advance] at hs <;> simp only [advance, hs]
  · cases s.creationObserver <;> simp [Promise.make]
  · cases s.setLocalObserver <;> simp [Promise.make]
  · cases s.setRemoteObserver <;> simp [Promise.make]

theorem isSet_creationObserver_advance :
    (s.advance w).creationObserver.isSet = s.creationObserver.isSet := by
  unfold Negotiation.advance
  split <;> simp

theorem isSet_setLocalObserver_advance :
    (s.advance w).setLocalObserver.isSet = s.setLocalObserver.isSet := by
  unfold Negotiation.advance
  split <;> simp

theorem isSet_setRemoteObserver_advance :
    (s.advance w).setRemoteObserver.isSet = s.setRemoteObserver.isSet := by
  unfold Negotiation.advance
  split <;> simp

theorem Untold.mono (h : s.Untold k) (hkm : k ≤ m) : s.Untold m where
  creation hm := h.creation (hkm.trans hm)
  setLocal hm := h.setLocal (hkm.trans hm)
  gathered hm := h.gathered (hkm.trans hm)
  setRemote hm := h.setRemote (hkm.trans hm)

/-- A step of the broadcast tells nothing. -/
theorem Untold.advance (h : s.Untold k) : (s.advance w).Untold k where
  creation hk := isSet_creationObserver_advance.trans (h.creation hk)
  setLocal hk := isSet_setLocalObserver_advance.trans (h.setLocal hk)
  gathered hk := by rw [observer_advance]; exact h.gathered hk
  setRemote hk := isSet_setRemoteObserver_advance.trans (h.setRemote hk)

theorem fresh_init (title : Bytes) (rating : Rating) (gameId : Bytes) :
    (init title rating gameId).Fresh where
  made := ⟨fun h => (nomatch h), fun h => (nomatch h), fun h => (nomatch h)⟩
  untold := ⟨fun _ => rfl, fun _ => rfl, fun _ => rfl, fun _ => rfl⟩
  candidates := rfl
  created h := absurd rfl h
  stateInv := stateInv_init title rating gameId

/-- A promise that has no value makes the wait time out. -/
theorem Fresh.found_eq (h : s.Fresh) (hs : (s.found true).isSome = true) :
    s.found true = some .failure := by
  have hnot : ∀ {α : Type} {p : Promise α} (f : α → Bool), p.isSet = false →
      p.satisfies f = false := by
    intro α p f hp
    cases p with
    | value v => cases hp
    | _ => rfl
  have huntold := h.untold
  unfold found at hs ⊢
  split at hs
  case h_1 ht =>
    rw [ht] at huntold
    simp only [hnot _ (huntold.creation le_rfl), Outcome.ofBool]
    rfl
  case h_2 ht =>
    rw [ht] at huntold
    simp only [hnot _ (huntold.setLocal le_rfl), Outcome.ofBool]
    rfl
  case h_3 ht =>
    rw [ht] at huntold
    simp only [huntold.gathered le_rfl, Outcome.ofBool]
    rfl
  case h_4 ht =>
    rw [ht] at huntold
    simp only [hnot _ (huntold.setRemote le_rfl), Outcome.ofBool]
    rfl
  case h_5 => cases hs

/-- **WebRTC can tell the thread what it waits for**, and nothing else. -/
theorem Fresh.exists_tell (h : s.Fresh) (hs : (s.found true).isSome = true) :
    ∃ a s', negotiationMachine.step s a = some (s', []) ∧ s.read a = none ∧
      s'.world = s.world ∧ s'.found true = some .success ∧
      s'.Untold (s.world.thread.position + 1) ∧ s'.observer.gatheredCandidates = [] := by
  have hunset : ∀ {α : Type} {p : Promise α}, p ≠ .notMade → p.isSet = false → p = .unset := by
    intro α p hmade hset
    cases p with
    | notMade => exact absurd rfl hmade
    | unset => rfl
    | value v => cases hset
  have huntold := h.untold
  have hassigned := h.stateInv.assigned
  unfold found at hs
  split at hs
  case h_1 ht =>
    rw [ht] at huntold ⊢
    have hp := hunset (h.made.creation ht) (huntold.creation le_rfl)
    refine ⟨.descriptionCreated (some ⟨"offer", some []⟩),
      { s with creationObserver := .value (some ⟨"offer", some []⟩) }, ?_, rfl, rfl, ?_, ?_,
      h.candidates⟩
    · show Option.map _ (s.creationObserver.setValue _) = _
      rw [hp]
      rfl
    · simp only [found, ht]
      rfl
    · exact ⟨fun hk => absurd hk (by decide), fun _ => huntold.setLocal (by decide),
        fun _ => huntold.gathered (by decide), fun _ => huntold.setRemote (by decide)⟩
  case h_2 ht =>
    rw [ht] at huntold ⊢
    have hp := hunset (h.made.setLocal ht) (huntold.setLocal le_rfl)
    refine ⟨.localDescriptionSet true, { s with setLocalObserver := .value true }, ?_, rfl, rfl,
      ?_, ?_, h.candidates⟩
    · show Option.map _ (s.setLocalObserver.setValue _) = _
      rw [hp]
      rfl
    · simp only [found, ht]
      rfl
    · exact ⟨fun hk => absurd hk (by decide), fun hk => absurd hk (by decide),
        fun _ => huntold.gathered (by decide), fun _ => huntold.setRemote (by decide)⟩
  case h_3 ht =>
    rw [ht] at huntold hassigned ⊢
    have hp := huntold.gathered le_rfl
    refine ⟨.iceGatheringChange .complete,
      { s with observer := { s.observer with promise := .value () } }, ?_, rfl, rfl, ?_, ?_,
      h.candidates⟩
    · show (if s.world.peerConnection then Option.map _ (Option.map _ (s.observer.promise.setValue
        ())) else none) = _
      rw [if_pos (hassigned.peer (by decide)), hp]
      rfl
    · simp only [found, ht]
      rfl
    · exact ⟨fun hk => absurd hk (by decide), fun hk => absurd hk (by decide),
        fun hk => absurd hk (by decide), fun _ => huntold.setRemote (by decide)⟩
  case h_4 ht =>
    rw [ht] at huntold ⊢
    have hp := hunset (h.made.setRemote ht) (huntold.setRemote le_rfl)
    refine ⟨.remoteDescriptionSet true, { s with setRemoteObserver := .value true }, ?_, rfl, rfl,
      ?_, ?_, h.candidates⟩
    · show Option.map _ (s.setRemoteObserver.setValue _) = _
      rw [hp]
      rfl
    · simp only [found, ht]
      rfl
    · exact ⟨fun hk => absurd hk (by decide), fun hk => absurd hk (by decide),
        fun hk => absurd hk (by decide), fun hk => absurd hk (by decide)⟩
  case h_5 => cases hs

/-- The step that the broadcast sees. -/
theorem step_of_read
    (hbind : negotiationMachine.step s a = (s.read a).bind fun action =>
      (s.world.step action).map fun r => (s.advance r.1, r.2))
    (hread : s.read a = some action) (hs : s.world.step action = some (w, out)) :
    negotiationMachine.step s a = some (s.advance w, out) := by
  rw [hbind, hread, Option.bind_some, hs]
  rfl

/-- Where such a step leads. -/
theorem Fresh.of_advance (h : s.Fresh) (hs : s.world.step action = some (w, out))
    (huntold : s'.Untold w.thread.position) (hcandidates : s'.observer.gatheredCandidates = []) :
    (s'.advance w).Fresh where
  made := made_advance s' w
  untold := by rw [world_advance]; exact huntold.advance
  candidates := by rw [observer_advance]; exact hcandidates
  created := by rw [world_advance]; exact (moves_of_step hs).startCall_of_thread h.created
  stateInv := by rw [world_advance]; exact h.stateInv.moves (moves_of_step hs)

/-- A step of the broadcast that needs nothing to be told. -/
theorem Fresh.exists_run_of_read (h : s.Fresh) (hs : s.world.step action = some (w, out))
    (hbind : negotiationMachine.step s a = (s.read a).bind fun action =>
      (s.world.step action).map fun r => (s.advance r.1, r.2))
    (hread : s.read a = some action) :
    ∃ tr s', negotiationMachine.Run s tr out s' ∧
      Machine.viewTrace world read tr = [(s.world, action)] ∧ s'.world = w ∧ s'.Fresh := by
  refine ⟨[(s, a)], s.advance w, .single (step_of_read hbind hread hs), ?_, world_advance s w, ?_⟩
  · simp [Machine.viewTrace, hread]
  · exact h.of_advance hs
      (h.untold.mono ((moves_of_step hs).position_le h.created)) h.candidates

/-- A wait that brings what the thread needs. -/
theorem Fresh.exists_run_of_success (h : s.Fresh) (hfound : (s.found true).isSome = true)
    (hs : s.world.step (.thread .success) = some (w, out)) :
    ∃ tr s', negotiationMachine.Run s tr out s' ∧
      Machine.viewTrace world read tr = [(s.world, .thread .success)] ∧ s'.world = w ∧
      s'.Fresh := by
  obtain ⟨a, t, ha, hread, hworld, hsuccess, huntold, hcandidates⟩ := h.exists_tell hfound
  have hnext : w.thread.position = s.world.thread.position + 1 := by
    obtain ⟨p, hp, hw⟩ : ∃ p, s.world.thread = .stage p ∧ w.thread = p.next := by
      cases threadMoves_of_threadStep hs with
      | advance p hp hok => exact ⟨p, hp, rfl⟩
      | giveUp o p error exit hp ho hg => rcases ho with ho | ho <;> cases ho
      | _ => simp [found, *] at hfound
    rw [hp, hw]
    cases p <;> simp [found, hp] at hfound <;> rfl
  have hreadWait : t.read (.wait true) = some (.thread .success) := by
    rw [read, hsuccess]
    rfl
  rw [← hworld] at hs
  refine ⟨[(s, a)] ++ [(t, .wait true)], t.advance w,
    (Machine.Run.single ha).trans (.single (step_of_read rfl hreadWait hs)), ?_,
    world_advance t w, ?_⟩
  · simp [Machine.viewTrace, hread, hreadWait, hworld]
  · rw [hworld] at hs
    exact h.of_advance hs (by rw [hnext]; exact huntold) hcandidates

/-- A stage is gone on from with an answer that tells whether it succeeded, or an exception. -/
theorem isBool_of_threadStep {p : Stage} (hp : s.world.thread = .stage p)
    (h : s.world.threadStep o = some (w, out)) : o.IsBool ∨ o = .raised := by
  cases o with
  | success => exact .inl ⟨true, rfl⟩
  | failure => exact .inl ⟨false, rfl⟩
  | raised => exact .inr rfl
  | _ => simp [World.threadStep, World.stageStep, hp] at h

/-- The request for no candidates can come to everything that the thread goes on with. -/
theorem exists_trickle (hs : s.world.thread = .stage .trickleCandidates)
    (hcandidates : s.observer.gatheredCandidates = [])
    (h : s.world.threadStep o = some (w, out)) :
    ∃ n : Network, s.read (.trickle n) = some (.thread o) := by
  have hanswers : Answers (trickleRequest []) [] Outcome.IsBool :=
    @RequestContext.answers_trickle ⟨"", "", "", "", "", []⟩
  obtain ⟨n, hn⟩ : ∃ n : Network, n.outcome (trickleRequest []) = some o := by
    rcases isBool_of_threadStep hs h with ho | rfl
    · exact hanswers.canAnswer rfl o ho
    · exact hanswers.raised
  exact ⟨n, by rw [read, if_pos hs, hcandidates, hn]; rfl⟩

/-- **Every step of the broadcast can be had.** -/
theorem Fresh.exists_run (h : s.Fresh) (hs : s.world.step action = some (w, out)) :
    ∃ tr s', negotiationMachine.Run s tr out s' ∧
      Machine.viewTrace world read tr = [(s.world, action)] ∧ s'.world = w ∧ s'.Fresh := by
  by_cases hdecides : s.decides action = true
  · cases action with
    | iceConnectionFailed =>
        obtain ⟨hpeer, heq⟩ : s.world.peerConnection = true ∧
            (s.world, [Event.failureReported .peerConnection .broadcastFailed]) = (w, out) := by
          simpa [World.step] using hs
        rw [Prod.mk.injEq] at heq
        obtain ⟨rfl, rfl⟩ := heq
        refine ⟨[(s, .iceConnectionChange .failed)], s, .single ?_, rfl, rfl, h⟩
        show (if s.world.peerConnection then _ else none) = _
        rw [if_pos hpeer]
        rfl
    | thread o =>
        by_cases htrickle : s.world.thread = .stage .trickleCandidates
        · obtain ⟨n, hn⟩ := exists_trickle htrickle h.candidates hs
          exact h.exists_run_of_read hs rfl hn
        · have hwait : (s.found true).isSome = true ∧ o ≠ .raised := by
            simpa [decides, htrickle] using hdecides
          obtain ⟨p, hp⟩ : ∃ p, s.world.thread = .stage p := by
            have hfound := hwait.1
            unfold found at hfound
            split at hfound
            case h_5 => cases hfound
            all_goals exact ⟨_, ‹_›⟩
          rcases isBool_of_threadStep hp hs with ⟨_ | _, rfl⟩ | rfl
          · refine h.exists_run_of_read (a := .wait true) hs rfl ?_
            rw [read, h.found_eq hwait.1]
            rfl
          · exact h.exists_run_of_success hwait.1 hs
          · exact absurd rfl hwait.2
    | _ => cases hdecides
  · exact h.exists_run_of_read (a := .other action) hs rfl (if_neg hdecides)

end

end Negotiation

/-- **A broadcast and its observers.**  The runs of a broadcast are those of a broadcast whose
waits come to what WebRTC has told its observers by then, and which sends the candidates that it
has been told of. -/
theorem runs_iff_negotiation (title : Bytes) (rating : Rating) (gameId : Bytes)
    (tr : List (World × Action)) (es : List Event) (w : World) :
    Runs title rating gameId tr es w ↔
      ∃ tr' s, negotiationMachine.Run (.init title rating gameId) tr' es s ∧
        Machine.viewTrace Negotiation.world Negotiation.read tr' = tr ∧ s.world = w := by
  constructor
  · exact Machine.Run.exists_of_lifts (N := broadcastMachine)
      (fun s b t out h hs => Negotiation.Fresh.exists_run h hs)
      (Negotiation.fresh_init title rating gameId)
  · rintro ⟨tr', s, hrun, rfl, rfl⟩
    exact negotiationMachine_extends.run_viewTrace hrun

end Caff
