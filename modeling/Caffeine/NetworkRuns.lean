/-
# A broadcast on a network

`Broadcast.lean` lets the outside answer each request with an outcome.  Here the requests are
made: the outcome is what the function of `src/RestApi.cpp` comes to in some network, with its
retries, its refreshes and its reading of the response.  Both machines have the same runs.
The only outcomes that no network brings are those of a request that cannot be serialised,
which throws.
-/
import Caffeine.RequestAnswers
import Caffeine.BroadcastMoves

namespace Caff

/-! ## The requests -/

namespace World

variable (b : RequestContext) (s : World)

/-- The request the broadcast thread waits for.  Only the thread itself stores a quality, so the
one it has read for a feed input is still there. -/
def threadRequest : Option (ℕ → Http Credentials Outcome) :=
  match s.thread with
  | .stage .trickleCandidates => some b.trickle
  | .stage .sendScreenshot => some RequestContext.sendScreenshot
  | .addFeed x => some (b.addFeed (x.value.getD []) s.connectionQuality)
  | .startBroadcast x => some (b.startBroadcast x.value)
  | .heartbeat _ => some RequestContext.heartbeat
  | .updateFeed x => some (b.updateFeed (x.value.getD []) s.connectionQuality)
  | .stopBroadcast => some b.stopBroadcast
  | _ => none

/-- The request call `i` waits for. -/
def callRequest (i : ℕ) : Option (ℕ → Http Credentials Outcome) :=
  match s.calls i with
  | .titleSent x _ => some (b.updateTitle x.value)
  | .feedSent x quality _ => some (b.updateFeed (x.value.getD []) quality)
  | _ => none

/-- The strings in these requests that are not the library's own. -/
def threadTexts : List Bytes :=
  match s.thread with
  | .stage .trickleCandidates => trickleTexts b.candidates
  | .addFeed x | .updateFeed x => [x.value.getD []]
  | .startBroadcast x => [x.value]
  | _ => []

def callTexts (i : ℕ) : List Bytes :=
  match s.calls i with
  | .titleSent x _ => [x.value]
  | .feedSent x _ _ => [x.value.getD []]
  | _ => []

end World

/-! ## The machine -/

/-- As the actions of a broadcast, with a network in place of the outcome of a request. -/
inductive NetworkAction
  | encoderInfo (n : Network)
  | thread (n : Network)
  | call (i : ℕ) (n : Network)
  | other (a : Action)

/-- `getEncoderInfo` throws in this network. -/
def Network.encoderInfoRaises (n : Network) : Option Bool :=
  match (getEncoderInfo n.env n.session).1 with
  | .ok _ => some false
  | .error (.fault _) => some true
  | .error .outOfDepth => none

/-- The action brings the answer to a request. -/
def World.answers (b : RequestContext) (s : World) : Action → Bool
  | .encoderInfo _ => true
  | .thread _ => (s.threadRequest b).isSome
  | .call i _ => (s.callRequest b i).isSome
  | _ => false

/-- The action with the outcomes that the requests come to. -/
def NetworkAction.read (b : RequestContext) (s : World) : NetworkAction → Option Action
  | .encoderInfo n => n.encoderInfoRaises.map .encoderInfo
  | .thread n => (s.threadRequest b).bind fun request => (n.outcome request).map .thread
  | .call i n => (s.callRequest b i).bind fun request => (n.outcome request).map (.call i)
  | .other a => if s.answers b a then none else some a

/-- A broadcast that makes its requests. -/
def networkMachine (b : RequestContext) : Machine World NetworkAction Event :=
  ⟨fun s a => (a.read b s).bind s.step⟩

theorem networkMachine_reads (b : RequestContext) :
    Machine.Reads (networkMachine b) broadcastMachine (NetworkAction.read b) where
  visible s a action h := by
    show (a.read b s).bind s.step = s.step action
    rw [h]
    rfl
  silent s a s' out hread hs := by
    have hs : (a.read b s).bind s.step = some (s', out) := hs
    rw [hread] at hs
    cases hs

/-- What is asked for can be serialised, or throws. -/
def Serialised (b : RequestContext) (s : World) : Action → Prop
  | .thread o => (s.threadTexts b).all isUtf8 = true ∨ o = .raised
  | .call i o => (s.callTexts i).all isUtf8 = true ∨ o = .raised
  | _ => True

/-! ## The answers -/

section

variable {b : RequestContext} {s : World} {i : ℕ} {request : ℕ → Http Credentials Outcome}

theorem isBool_or_raised {o : Outcome} (h : o = .success ∨ o = .failure ∨ o = .raised) :
    o.IsBool ∨ o = .raised := by
  rcases h with rfl | rfl | rfl
  · exact .inl ⟨true, rfl⟩
  · exact .inl ⟨false, rfl⟩
  · exact .inr rfl

/-- The thread goes on from a request with what the request can come to. -/
theorem exists_answers_threadRequest (hr : s.threadRequest b = some request) :
    ∃ P, Answers request (s.threadTexts b) P ∧
      ∀ o s' out, s.threadStep o = some (s', out) → P o ∨ o = .raised := by
  unfold World.threadRequest at hr
  split at hr
  case h_1 hs =>
    rw [← Option.some.inj hr]
    refine ⟨_, by simpa only [World.threadTexts, hs] using RequestContext.answers_trickle,
      fun o s' out h => isBool_or_raised ?_⟩
    cases o <;> simp [World.threadStep, World.stageStep, hs] at h ⊢
  case h_2 hs =>
    rw [← Option.some.inj hr]
    refine ⟨_, by simpa only [World.threadTexts, hs] using RequestContext.answers_sendScreenshot,
      fun o s' out h => isBool_or_raised ?_⟩
    cases o <;> simp [World.threadStep, World.stageStep, hs] at h ⊢
  case h_3 x hs =>
    rw [← Option.some.inj hr]
    refine ⟨_, by simpa only [World.threadTexts, hs] using RequestContext.answers_addFeed,
      fun o s' out h => ?_⟩
    cases o <;> simp [World.threadStep, hs] at h ⊢
  case h_4 x hs =>
    rw [← Option.some.inj hr]
    refine ⟨_, by simpa only [World.threadTexts, hs] using RequestContext.answers_startBroadcast,
      fun o s' out h => ?_⟩
    cases o <;> simp [World.threadStep, hs] at h ⊢
  case h_5 hs =>
    rw [← Option.some.inj hr]
    refine ⟨_, by simpa only [World.threadTexts, hs] using RequestContext.answers_heartbeat,
      fun o s' out h => ?_⟩
    cases o <;> simp [World.threadStep, hs] at h ⊢
  case h_6 x hs =>
    rw [← Option.some.inj hr]
    refine ⟨_, by simpa only [World.threadTexts, hs] using RequestContext.answers_updateFeed,
      fun o s' out h => isBool_or_raised ?_⟩
    cases o <;> simp [World.threadStep, hs] at h ⊢
  case h_7 hs =>
    rw [← Option.some.inj hr]
    refine ⟨_, by simpa only [World.threadTexts, hs] using RequestContext.answers_stopBroadcast,
      fun o s' out h => isBool_or_raised ?_⟩
    cases o <;> simp [World.threadStep, hs] at h ⊢
  case h_8 => cases hr

/-- A call goes on from a request likewise. -/
theorem exists_answers_callRequest (hr : s.callRequest b i = some request) :
    ∃ P, Answers request (s.callTexts i) P ∧
      ∀ o s' out, s.callStep i o = some (s', out) → P o ∨ o = .raised := by
  unfold World.callRequest at hr
  split at hr
  case h_1 x served hs =>
    rw [← Option.some.inj hr]
    refine ⟨_, by simpa only [World.callTexts, hs] using RequestContext.answers_updateTitle,
      fun o s' out h => isBool_or_raised ?_⟩
    cases o <;> simp [World.callStep, hs] at h ⊢
  case h_2 x quality served hs =>
    rw [← Option.some.inj hr]
    refine ⟨_, by simpa only [World.callTexts, hs] using RequestContext.answers_updateFeed,
      fun o s' out h => isBool_or_raised ?_⟩
    cases o <;> simp [World.callStep, hs] at h ⊢
  case h_3 => cases hr

/-- A request whose texts are UTF-8 can come to what is gone on with, and only then can it
come to anything but an exception. -/
theorem Answers.serialised_iff {texts : List Bytes} {P : Outcome → Prop} {o : Outcome}
    (h : Answers request texts P) (ho : P o ∨ o = .raised) :
    texts.all isUtf8 = true ∨ o = .raised ↔ ∃ n : Network, n.outcome request = some o := by
  constructor
  · rintro (htexts | rfl)
    · rcases ho with ho | rfl
      · exact h.canAnswer htexts o ho
      · exact h.raised
    · exact h.raised
  · rintro ⟨n, hn⟩
    by_contra hnot
    rw [not_or] at hnot
    rw [h.throws hnot.1 n, Option.some.injEq] at hn
    exact hnot.2 hn.symm

/-- The encoder information can come, and its request can throw. -/
theorem exists_encoderInfoRaises (raised : Bool) :
    ∃ n : Network, n.encoderInfoRaises = some raised := by
  cases raised with
  | false => exact ⟨⟨{ answering .null with parse := fun _ => none }, firstSession, 0⟩, rfl⟩
  | true => exact ⟨⟨answering .null, firstSession, 0⟩, rfl⟩

end

/-- An action that brings no answer is read as itself, and is not the reading of another. -/
theorem read_of_not_answers {b : RequestContext} {s : World} {a : Action}
    (h : s.answers b a = false) : ∃ x : NetworkAction, x.read b s = some a :=
  ⟨.other a, by simp [NetworkAction.read, h]⟩

/-- The reading of an answer to the thread, -/
theorem exists_read_thread_iff {b : RequestContext} {s : World} {o : Outcome}
    {request : ℕ → Http Credentials Outcome} (hr : s.threadRequest b = some request) :
    (∃ x : NetworkAction, x.read b s = some (.thread o)) ↔
      ∃ n : Network, n.outcome request = some o := by
  constructor
  · rintro ⟨x, hx⟩
    cases x with
    | thread n =>
        rw [NetworkAction.read, hr, Option.bind_some] at hx
        obtain ⟨o', ho', heq⟩ := Option.map_eq_some_iff.mp hx
        exact ⟨n, ho'.trans (congrArg some (Action.thread.inj heq))⟩
    | encoderInfo n =>
        obtain ⟨r, -, heq⟩ := Option.map_eq_some_iff.mp hx
        cases heq
    | call i n =>
        obtain ⟨r, -, hx⟩ := Option.bind_eq_some_iff.mp hx
        obtain ⟨o', -, heq⟩ := Option.map_eq_some_iff.mp hx
        cases heq
    | other a =>
        by_cases ha : s.answers b a = true
        · simp [NetworkAction.read, ha] at hx
        · rw [NetworkAction.read, if_neg ha, Option.some.injEq] at hx
          rw [hx, World.answers, hr] at ha
          exact absurd rfl ha
  · rintro ⟨n, hn⟩
    exact ⟨.thread n, by rw [NetworkAction.read, hr, Option.bind_some, hn]; rfl⟩

/-- and to a call. -/
theorem exists_read_call_iff {b : RequestContext} {s : World} {i : ℕ} {o : Outcome}
    {request : ℕ → Http Credentials Outcome} (hr : s.callRequest b i = some request) :
    (∃ x : NetworkAction, x.read b s = some (.call i o)) ↔
      ∃ n : Network, n.outcome request = some o := by
  constructor
  · rintro ⟨x, hx⟩
    cases x with
    | call j n =>
        obtain ⟨r, hj, hx⟩ := Option.bind_eq_some_iff.mp hx
        obtain ⟨o', ho', heq⟩ := Option.map_eq_some_iff.mp hx
        obtain ⟨rfl, rfl⟩ := Action.call.inj heq
        rw [hr, Option.some.injEq] at hj
        exact ⟨n, hj ▸ ho'⟩
    | encoderInfo n =>
        obtain ⟨r, -, heq⟩ := Option.map_eq_some_iff.mp hx
        cases heq
    | thread n =>
        obtain ⟨r, -, hx⟩ := Option.bind_eq_some_iff.mp hx
        obtain ⟨o', -, heq⟩ := Option.map_eq_some_iff.mp hx
        cases heq
    | other a =>
        by_cases ha : s.answers b a = true
        · simp [NetworkAction.read, ha] at hx
        · rw [NetworkAction.read, if_neg ha, Option.some.injEq] at hx
          rw [hx, World.answers, hr] at ha
          exact absurd rfl ha
  · rintro ⟨n, hn⟩
    exact ⟨.call i n, by rw [NetworkAction.read, hr, Option.bind_some, hn]; rfl⟩

/-- Texts are only sent with a request. -/
theorem threadTexts_of_no_request {b : RequestContext} {s : World}
    (hr : s.threadRequest b = none) : s.threadTexts b = [] := by
  unfold World.threadRequest at hr
  unfold World.threadTexts
  split at hr <;> simp_all

theorem callTexts_of_no_request {b : RequestContext} {s : World} {i : ℕ}
    (hr : s.callRequest b i = none) : s.callTexts i = [] := by
  unfold World.callRequest at hr
  unfold World.callTexts
  split at hr <;> simp_all

/-- **What can be read.**  A step of a broadcast is one over the network exactly if what it
asks for can be serialised or throws. -/
theorem serialised_iff (b : RequestContext) (s : World) (a : Action) (s' : World)
    (out : List Event) (hs : s.step a = some (s', out)) :
    Serialised b s a ↔ ∃ x : NetworkAction, x.read b s = some a := by
  cases a with
  | thread o =>
      cases hr : s.threadRequest b with
      | none =>
          refine iff_of_true (.inl (by rw [threadTexts_of_no_request hr]; rfl)) ?_
          exact read_of_not_answers (by simp [World.answers, hr])
      | some request =>
          obtain ⟨P, hanswers, hP⟩ := exists_answers_threadRequest hr
          exact (hanswers.serialised_iff (hP o s' out hs)).trans (exists_read_thread_iff hr).symm
  | call i o =>
      cases hr : s.callRequest b i with
      | none =>
          refine iff_of_true (.inl (by rw [callTexts_of_no_request hr]; rfl)) ?_
          exact read_of_not_answers (by simp [World.answers, hr])
      | some request =>
          obtain ⟨P, hanswers, hP⟩ := exists_answers_callRequest hr
          exact (hanswers.serialised_iff (hP o s' out hs)).trans (exists_read_call_iff hr).symm
  | encoderInfo raised =>
      obtain ⟨n, hn⟩ := exists_encoderInfoRaises raised
      exact iff_of_true trivial ⟨.encoderInfo n, congrArg (Option.map Action.encoderInfo) hn⟩
  | _ => exact iff_of_true trivial (read_of_not_answers rfl)

/-- **A broadcast and its network.**  The runs of a broadcast in which a request that cannot
be serialised throws are those of a broadcast that makes its requests over some network, each
of them coming to what its exchanges and the answers of the server make of it. -/
theorem runs_iff_network (b : RequestContext) (title : Bytes) (rating : Rating) (gameId : Bytes)
    (tr : List (World × Action)) (es : List Event) (s : World) :
    broadcastMachine.Run (World.init title rating gameId) tr es s ∧
        Machine.Meets (Serialised b) tr ↔
      ∃ tr', (networkMachine b).Run (World.init title rating gameId) tr' es s ∧
        Machine.readTrace (NetworkAction.read b) tr' = tr :=
  (networkMachine_reads b).run_iff (serialised_iff b)

end Caff
