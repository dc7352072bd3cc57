/-
# Setters called one after another

A setter stores the new value, sends it if it is new and the broadcast is `Live`, and does
not look at what becomes of the update.  A value whose update failed is not new when it is
set again, and is not sent again.
-/
import Caffeine.Broadcast
import Caffeine.Library.ChangeDetection

namespace Caff

open ChangeDetection (Copies Settled UpToDate storedAfter)

/-! ## Calls -/

/-- A call of a setter. -/
inductive SetterCall
  | setTitle (title : Bytes)
  | setRating (rating : Rating)
  | setGameId (id : Bytes)
  deriving DecidableEq, Repr

/-- What becomes of an update request.  One that fails may still have been processed. -/
inductive UpdateReply
  | succeeded
  | failed (processed : Bool)
  | raised (processed : Bool)
  deriving DecidableEq, Repr

def UpdateReply.processed : UpdateReply → Bool
  | .succeeded => true
  | .failed processed | .raised processed => processed

/-- How the request comes back. -/
def UpdateReply.outcome : UpdateReply → Outcome
  | .succeeded => .success
  | .failed _ => .failure
  | .raised _ => .raised

namespace World

/-- `updateTitle`, with what becomes of its request. -/
def updateTitle (s : World) (reply : UpdateReply) : World :=
  if reply.processed then { s with stageTitle := some s.fullTitle } else s

/-- `updateFeed`, with what becomes of its request. -/
def updateFeed (s : World) (reply : UpdateReply) : World :=
  if reply.processed then { s with feedGame := some s.currentGame } else s

@[simp] theorem updateTitle_title (s : World) (reply : UpdateReply) :
    (s.updateTitle reply).title = s.title := by
  unfold updateTitle
  split <;> rfl

@[simp] theorem updateTitle_rating (s : World) (reply : UpdateReply) :
    (s.updateTitle reply).rating = s.rating := by
  unfold updateTitle
  split <;> rfl

@[simp] theorem updateFeed_gameId (s : World) (reply : UpdateReply) :
    (s.updateFeed reply).gameId = s.gameId := by
  unfold updateFeed
  split <;> rfl

/-- A call of a setter from beginning to end, with what becomes of its request if it makes
one. -/
def callSetter (s : World) (call : SetterCall) (reply : UpdateReply) : World :=
  match call with
  | .setTitle title =>
      if title ≠ s.title then
        let s : World := { s with title, titleVersion := s.titleVersion + 1 }
        if s.state = .live then s.updateTitle reply else s
      else s
  | .setRating rating =>
      if rating ≠ s.rating then
        let s : World := { s with rating, titleVersion := s.titleVersion + 1 }
        if s.state = .live then s.updateTitle reply else s
      else s
  | .setGameId id =>
      if s.gameId ≠ id then
        let s : World := { s with gameId := id, gameVersion := s.gameVersion + 1 }
        if s.isOnline then s.updateFeed reply else s
      else s

/-- Calls one after another. -/
def callSetters (s : World) (calls : List (SetterCall × UpdateReply)) : World :=
  calls.foldl (fun s p => s.callSetter p.1 p.2) s

end World

/-! ## Calls as runs of the broadcast -/

section

variable {s : World} {i : ℕ} {call : SetterCall} {reply : UpdateReply}
  {calls : List (SetterCall × UpdateReply)}

theorem World.setCall_setCall (s : World) (i : ℕ) (c c' : Call) :
    (s.setCall i c).setCall i c' = s.setCall i c' := by
  unfold World.setCall
  rw [Function.update_idem]

theorem World.setCall_self {c : Call} (h : s.calls i = c) : s.setCall i c = s := by
  unfold World.setCall
  rw [← h, Function.update_eq_self]

/-- A call that goes on to `c'` in a step of its own. -/
theorem step_setCall {c c' : Call} {o : Outcome}
    (h : (s.setCall i c).callStep i o = some ((s.setCall i c).setCall i c', [])) :
    broadcastMachine.step (s.setCall i c) (.call i o) = some (s.setCall i c', []) := by
  rw [World.setCall_setCall] at h
  exact h

theorem UpdateReply.outcome_of_not_processed (h : ¬ reply.processed = true) :
    reply.outcome = .failure ∨ reply.outcome = .raised := by
  cases reply with
  | succeeded => exact absurd rfl h
  | failed processed => exact .inl rfl
  | raised processed => exact .inr rfl

/-- A request that is in flight comes back: any, if it was processed, and else one that
failed. -/
theorem step_answer {c : Call} {served : Bool} (hidle : s.calls i = .idle)
    (hc : (∃ x, c = .titleSent x served) ∨ ∃ x q, c = .feedSent x q served)
    (hserved : served = true ∨ ¬ reply.processed = true) :
    broadcastMachine.step (s.setCall i c) (.call i reply.outcome) = some (s, []) := by
  have hback : broadcastMachine.step (s.setCall i c) (.call i reply.outcome) =
      some (s.setCall i .idle, []) := by
    apply step_setCall
    unfold World.callStep
    rw [World.setCall_calls_self]
    rcases hserved with rfl | hnot
    · rcases hc with ⟨x, rfl⟩ | ⟨x, q, rfl⟩ <;> cases reply <;> rfl
    · rcases UpdateReply.outcome_of_not_processed hnot with h | h <;> rw [h] <;>
        rcases hc with ⟨x, rfl⟩ | ⟨x, q, rfl⟩ <;> rfl
  rw [hback, World.setCall_self hidle]

/-- A request is processed or not, and comes back. -/
theorem run_request {s' : World} {c c' : Call} (reply : UpdateReply)
    (hidle : s.calls i = .idle) (hidle' : s'.calls i = .idle)
    (hc : (∃ x, c = .titleSent x false) ∨ ∃ x q, c = .feedSent x q false)
    (hc' : (∃ x, c' = .titleSent x true) ∨ ∃ x q, c' = .feedSent x q true)
    (hserve : broadcastMachine.step (s.setCall i c) (.serveCall i) =
      some (s'.setCall i c', [])) :
    ∃ tr, broadcastMachine.Run (s.setCall i c) tr [] (if reply.processed then s' else s) := by
  by_cases hprocessed : reply.processed = true
  · have hanswer : broadcastMachine.step (s'.setCall i c') (.call i reply.outcome) =
        some (s', []) := step_answer hidle' hc' (.inl rfl)
    rw [if_pos hprocessed]
    exact ⟨_, (Machine.Run.single hserve).trans (Machine.Run.single hanswer)⟩
  · have hanswer : broadcastMachine.step (s.setCall i c) (.call i reply.outcome) =
        some (s, []) := step_answer hidle hc (.inr hprocessed)
    rw [if_neg hprocessed]
    exact ⟨_, Machine.Run.single hanswer⟩

/-- The request of `updateTitle`. -/
theorem run_updateTitle (reply : UpdateReply) (hidle : s.calls i = .idle) :
    ∃ tr, broadcastMachine.Run (s.setCall i (.titleSent s.fullTitle false)) tr []
      (s.updateTitle reply) := by
  have hserve : broadcastMachine.step (s.setCall i (.titleSent s.fullTitle false))
      (.serveCall i) =
        some (({ s with stageTitle := some s.fullTitle } : World).setCall i
          (.titleSent s.fullTitle true), []) := by
    show (World.serveCall _ i).map (·, []) = _
    unfold World.serveCall
    rw [World.setCall_calls_self,
      ← World.setCall_setCall _ i (.titleSent s.fullTitle false) (.titleSent s.fullTitle true)]
    rfl
  exact run_request reply hidle hidle (.inl ⟨_, rfl⟩) (.inl ⟨_, rfl⟩) hserve

/-- The request of `updateFeed`. -/
theorem run_updateFeed (reply : UpdateReply) (hidle : s.calls i = .idle) :
    ∃ tr, broadcastMachine.Run
      (s.setCall i (.feedSent s.currentGame s.connectionQuality false)) tr []
      (s.updateFeed reply) := by
  have hserve : broadcastMachine.step
      (s.setCall i (.feedSent s.currentGame s.connectionQuality false)) (.serveCall i) =
        some (({ s with feedGame := some s.currentGame } : World).setCall i
          (.feedSent s.currentGame s.connectionQuality true), []) := by
    show (World.serveCall _ i).map (·, []) = _
    unfold World.serveCall
    rw [World.setCall_calls_self,
      ← World.setCall_setCall _ i (.feedSent s.currentGame s.connectionQuality false)
        (.feedSent s.currentGame s.connectionQuality true)]
    rfl
  exact run_request reply hidle hidle (.inr ⟨_, _, rfl⟩) (.inr ⟨_, _, rfl⟩) hserve

/-- A title or rating that has been stored is sent. -/
theorem run_titleStored (reply : UpdateReply) (version : ℕ) (hidle : s.calls i = .idle)
    (hlive : s.state = .live) :
    ∃ tr, broadcastMachine.Run (s.setCall i (.titleStored version)) tr []
      (s.updateTitle reply) := by
  have htest : broadcastMachine.step (s.setCall i (.titleStored version)) (.call i .success) =
      some (s.setCall i .titleReading, []) := by
    apply step_setCall
    unfold World.callStep
    rw [World.setCall_calls_self]
    show some (World.setCall _ i (if s.state = .live then _ else _), _) = _
    rw [if_pos hlive]
  have hread : broadcastMachine.step (s.setCall i .titleReading) (.call i .success) =
      some (s.setCall i (.titleSent s.fullTitle false), []) := by
    apply step_setCall
    unfold World.callStep
    rw [World.setCall_calls_self]
    rfl
  obtain ⟨tr, hrun⟩ := run_updateTitle reply hidle
  exact ⟨_, ((Machine.Run.single htest).trans (Machine.Run.single hread)).trans hrun⟩

/-- A game that has been stored is sent. -/
theorem run_gameStored (reply : UpdateReply) (version : ℕ) (hidle : s.calls i = .idle)
    (honline : s.isOnline = true) :
    ∃ tr, broadcastMachine.Run (s.setCall i (.gameStored version)) tr []
      (s.updateFeed reply) := by
  have htest : broadcastMachine.step (s.setCall i (.gameStored version)) (.call i .success) =
      some (s.setCall i .feedReading, []) := by
    apply step_setCall
    unfold World.callStep
    rw [World.setCall_calls_self]
    show some (World.setCall _ i (if s.isOnline then _ else _), _) = _
    rw [if_pos honline]
  have hread : broadcastMachine.step (s.setCall i .feedReading) (.call i .success) =
      some (s.setCall i (.feedSent s.currentGame s.connectionQuality false), []) := by
    apply step_setCall
    unfold World.callStep
    rw [World.setCall_calls_self]
    rfl
  obtain ⟨tr, hrun⟩ := run_updateFeed reply hidle
  exact ⟨_, ((Machine.Run.single htest).trans (Machine.Run.single hread)).trans hrun⟩

/-- A call touches neither the state nor the calls. -/
theorem World.callSetter_state : (s.callSetter call reply).state = s.state := by
  unfold World.callSetter World.updateTitle World.updateFeed
  cases call <;> dsimp only <;> split_ifs <;> rfl

theorem World.callSetter_canCall : (s.callSetter call reply).canCall i = s.canCall i := by
  unfold World.callSetter World.updateTitle World.updateFeed
  cases call <;> dsimp only <;> split_ifs <;> rfl

/-- A new value is stored and sent, and one that is not new is not. -/
theorem World.callSetter_setTitle {title : Bytes} (hlive : s.state = .live) :
    s.callSetter (.setTitle title) reply =
      if title ≠ s.title then
        ({ s with title, titleVersion := s.titleVersion + 1 } : World).updateTitle reply
      else s := by
  show (if title ≠ s.title then if s.state = .live then _ else _ else _) = _
  rw [if_pos hlive]

theorem World.callSetter_setRating {rating : Rating} (hlive : s.state = .live) :
    s.callSetter (.setRating rating) reply =
      if rating ≠ s.rating then
        ({ s with rating, titleVersion := s.titleVersion + 1 } : World).updateTitle reply
      else s := by
  show (if rating ≠ s.rating then if s.state = .live then _ else _ else _) = _
  rw [if_pos hlive]

theorem World.callSetter_setGameId {id : Bytes} (hlive : s.state = .live) :
    s.callSetter (.setGameId id) reply =
      if s.gameId ≠ id then
        ({ s with gameId := id, gameVersion := s.gameVersion + 1 } : World).updateFeed reply
      else s := by
  have honline : s.isOnline = true := by
    unfold World.isOnline
    rw [hlive]
  show (if s.gameId ≠ id then if s.isOnline = true then _ else _ else _) = _
  rw [if_pos honline]

/-- **A call is a run of the broadcast**, in which no one else takes a step. -/
theorem run_callSetter (call : SetterCall) (reply : UpdateReply) (hcall : s.canCall i = true)
    (hlive : s.state = .live) :
    ∃ tr, broadcastMachine.Run s tr [] (s.callSetter call reply) := by
  have hidle : s.calls i = .idle := (of_decide_eq_true hcall).2
  cases call with
  | setTitle title =>
      have hstep : broadcastMachine.step s (.setTitle i title) = some (s.setTitle i title, []) :=
        if_pos hcall
      unfold World.setTitle at hstep
      rw [World.callSetter_setTitle hlive]
      by_cases hnew : title ≠ s.title
      · rw [if_pos hnew] at hstep ⊢
        obtain ⟨tr, hrun⟩ := run_titleStored (s := { s with title, titleVersion := _ }) reply
          (s.titleVersion + 1) hidle hlive
        exact ⟨_, (Machine.Run.single hstep).trans hrun⟩
      · rw [if_neg hnew] at hstep ⊢
        exact ⟨_, Machine.Run.single hstep⟩
  | setRating rating =>
      have hstep : broadcastMachine.step s (.setRating i rating) =
          some (s.setRating i rating, []) := if_pos hcall
      unfold World.setRating at hstep
      rw [World.callSetter_setRating hlive]
      by_cases hnew : rating ≠ s.rating
      · rw [if_pos hnew] at hstep ⊢
        obtain ⟨tr, hrun⟩ := run_titleStored (s := { s with rating, titleVersion := _ }) reply
          (s.titleVersion + 1) hidle hlive
        exact ⟨_, (Machine.Run.single hstep).trans hrun⟩
      · rw [if_neg hnew] at hstep ⊢
        exact ⟨_, Machine.Run.single hstep⟩
  | setGameId id =>
      have hstep : broadcastMachine.step s (.setGameId i id) = some (s.setGameId i id, []) :=
        if_pos hcall
      have honline : s.isOnline = true := by
        unfold World.isOnline
        rw [hlive]
      unfold World.setGameId at hstep
      rw [World.callSetter_setGameId hlive]
      by_cases hnew : s.gameId ≠ id
      · rw [if_pos hnew] at hstep ⊢
        obtain ⟨tr, hrun⟩ := run_gameStored (s := { s with gameId := id, gameVersion := _ }) reply
          (s.gameVersion + 1) hidle honline
        exact ⟨_, (Machine.Run.single hstep).trans hrun⟩
      · rw [if_neg hnew] at hstep ⊢
        exact ⟨_, Machine.Run.single hstep⟩

/-- **Calls one after another are a run of the broadcast.** -/
theorem run_callSetters (hcall : s.canCall i = true) (hlive : s.state = .live) :
    ∃ tr, broadcastMachine.Run s tr [] (s.callSetters calls) := by
  induction calls generalizing s with
  | nil => exact ⟨[], .refl s⟩
  | cons p calls ih =>
      obtain ⟨tr, hrun⟩ := run_callSetter p.1 p.2 hcall hlive
      have hcall' : (s.callSetter p.1 p.2).canCall i = true := by
        rw [World.callSetter_canCall, hcall]
      have hlive' : (s.callSetter p.1 p.2).state = .live := by
        rw [World.callSetter_state, hlive]
      obtain ⟨tr', hrun'⟩ := ih hcall' hlive'
      exact ⟨_, hrun.trans hrun'⟩

end

/-! ## The title and the game -/

/-- A value that setters store, and what the server has of it. -/
structure Setters (V S : Type) where
  /-- What a call sets, if it is one of these setters. -/
  set : SetterCall → Option (V → V)
  stored : World → V
  server : World → S
  view : V → S

/-- `setTitle` and `setRating`, and the title of the stage. -/
def titleSetters : Setters (Bytes × Rating) (Option Bytes) where
  set
    | .setTitle title => some fun v => (title, v.2)
    | .setRating rating => some fun v => (v.1, rating)
    | .setGameId _ => none
  stored s := (s.title, s.rating)
  server s := s.stageTitle.map Publication.Stamped.value
  view v := some (annotateTitle v.1 v.2)

/-- `setGameId`, and the game of the feed. -/
def gameSetters : Setters Bytes (Option (Option Bytes)) where
  set
    | .setGameId id => some fun _ => id
    | _ => none
  stored s := s.gameId
  server s := s.feedGame.map Publication.Stamped.value
  view id := some (if id.isEmpty then none else some id)

namespace Setters

variable {V S : Type}

/-- The call, with the reply to it, is the last one of these setters, after `before`. -/
def LastCall (m : Setters V S) (calls before : List (SetterCall × UpdateReply))
    (call : SetterCall) (reply : UpdateReply) : Prop :=
  (m.set call).isSome = true ∧
    ∃ after, calls = before ++ (call, reply) :: after ∧ ∀ p ∈ after, m.set p.1 = none

/-- A call that changes `v`, and so needs a request. -/
def Changes (m : Setters V S) (call : SetterCall) (v : V) : Prop :=
  ∃ set, m.set call = some set ∧ set v ≠ v

/-- The server has what is stored. -/
def ServerHasStored (m : Setters V S) (s : World) : Prop := m.server s = m.view (m.stored s)

/-- If the last of the calls needed no request, or its request succeeded, the server has what
is stored. -/
def Law (m : Setters V S) (s : World) (calls : List (SetterCall × UpdateReply)) : Prop :=
  ∀ before call reply, m.LastCall calls before call reply →
    ¬ m.Changes call (m.stored (s.callSetters before)) ∨ reply = .succeeded →
    m.ServerHasStored (s.callSetters calls)

/-- A call, with what becomes of its request. -/
def update (set : V → V) (reply : UpdateReply) : ChangeDetection.Call V where
  set := set
  processed := reply.processed
  succeeded := reply = .succeeded
  processed_of_succeeded h := by
    rw [of_decide_eq_true h]
    rfl

/-- The calls of these setters. -/
def updates (m : Setters V S) (calls : List (SetterCall × UpdateReply)) :
    List (ChangeDetection.Call V) :=
  calls.filterMap fun p => (m.set p.1).map fun set => update set p.2

/-- The last of the calls sets a new value, or the calls after the last request that the
server processed have left what is sent of the value as it was. -/
def Settles (m : Setters V S) (s : World) (calls : List (SetterCall × UpdateReply)) : Prop :=
  ∀ before call reply, m.LastCall calls before call reply →
    m.Changes call (storedAfter (m.stored s) (m.updates before)) ∨
      Settled m.view (m.stored s) (m.server s) (m.updates calls)

def copies (m : Setters V S) (s : World) : Copies V S := ⟨m.stored s, m.server s⟩

/-- The setters store and send what the calls set, and the other calls do neither. -/
structure Faithful [DecidableEq V] (m : Setters V S) : Prop where
  set : ∀ s call reply set, s.state = .live → m.set call = some set →
    m.copies (s.callSetter call reply) =
      ChangeDetection.step m.view (m.copies s) (update set reply)
  other : ∀ s call reply, s.state = .live → m.set call = none →
    m.copies (s.callSetter call reply) = m.copies s

end Setters

section

variable {V S : Type} {m : Setters V S} {s : World}
  {calls before : List (SetterCall × UpdateReply)} {call : SetterCall} {reply : UpdateReply}
  {set : V → V} {v : V}

/-- The calls of the setters up to the last one. -/
theorem Setters.LastCall.exists_updates_eq (h : m.LastCall calls before call reply) :
    ∃ set, m.set call = some set ∧
      m.updates calls = m.updates before ++ [Setters.update set reply] := by
  obtain ⟨hsome, after, rfl, hafter⟩ := h
  obtain ⟨set, hset⟩ := Option.isSome_iff_exists.mp hsome
  have hnone : m.updates after = [] := by
    apply List.filterMap_eq_nil_iff.mpr
    intro p hp
    rw [hafter p hp]
    rfl
  refine ⟨set, hset, ?_⟩
  unfold Setters.updates at hnone ⊢
  rw [List.filterMap_append, List.filterMap_cons_some (by rw [hset]; rfl), hnone]

theorem Setters.changes_iff (hset : m.set call = some set) :
    m.Changes call v ↔ (Setters.update set reply).Changes v := by
  unfold Setters.Changes
  rw [hset]
  constructor
  · rintro ⟨set', h, hne⟩
    rwa [← Option.some.inj h] at hne
  · intro hne
    exact ⟨set, rfl, hne⟩

variable [DecidableEq V]

/-- Both sides after the calls. -/
theorem Setters.Faithful.copies_callSetters (h : m.Faithful) (hlive : s.state = .live) :
    m.copies (s.callSetters calls) =
      ChangeDetection.run m.view (m.copies s) (m.updates calls) := by
  induction calls generalizing s with
  | nil => rfl
  | cons p calls ih =>
      have hlive' : (s.callSetter p.1 p.2).state = .live := by
        rw [World.callSetter_state, hlive]
      show m.copies ((s.callSetter p.1 p.2).callSetters calls) = _
      rw [ih hlive']
      unfold Setters.updates
      rcases hset : m.set p.1 with _ | set
      · rw [h.other s p.1 p.2 hlive hset, List.filterMap_cons_none (by rw [hset]; rfl)]
      · rw [h.set s p.1 p.2 set hlive hset, List.filterMap_cons_some (by rw [hset]; rfl)]
        rfl

/-- What is stored after the calls is what they set. -/
theorem Setters.Faithful.stored_callSetters (h : m.Faithful) (hlive : s.state = .live) :
    m.stored (s.callSetters calls) = storedAfter (m.stored s) (m.updates calls) := by
  have hcopies : m.copies (s.callSetters calls) = _ := h.copies_callSetters hlive
  have hstored := congrArg Copies.stored hcopies
  rw [ChangeDetection.stored_run] at hstored
  exact hstored

theorem Setters.Faithful.serverHasStored_iff (h : m.Faithful) (hlive : s.state = .live) :
    m.ServerHasStored (s.callSetters calls) ↔
      UpToDate m.view (ChangeDetection.run m.view (m.copies s) (m.updates calls)) := by
  rw [← h.copies_callSetters hlive]
  exact Iff.rfl

/-- **The law of setters** holds exactly if the last call sets a new value, or the earlier
ones have left the server up to date. -/
theorem Setters.Faithful.law_iff (h : m.Faithful) (hlive : s.state = .live) :
    m.Law s calls ↔ m.Settles s calls := by
  have hlast : ∀ before call reply, m.LastCall calls before call reply →
      ((¬ m.Changes call (m.stored (s.callSetters before)) ∨ reply = .succeeded →
          m.ServerHasStored (s.callSetters calls)) ↔
        (m.Changes call (storedAfter (m.stored s) (m.updates before)) ∨
          Settled m.view (m.stored s) (m.server s) (m.updates calls))) := by
    intro before call reply hlast
    obtain ⟨set, hset, hupdates⟩ := hlast.exists_updates_eq
    have hchanges : ∀ v, m.Changes call v ↔ (Setters.update set reply).Changes v :=
      fun v => Setters.changes_iff hset
    have hsucceeded : reply = .succeeded ↔ (Setters.update set reply).succeeded = true :=
      decide_eq_true_iff.symm
    rw [h.stored_callSetters hlive, h.serverHasStored_iff hlive, hchanges, hsucceeded, hupdates]
    exact ChangeDetection.upToDate_iff (c := m.copies s)
  constructor
  · intro hlaw before call reply hcall
    exact (hlast before call reply hcall).mp (hlaw before call reply hcall)
  · intro hsettles before call reply hcall
    exact (hlast before call reply hcall).mpr (hsettles before call reply hcall)

end

/-! ## The two laws -/

section

variable {s : World} {reply : UpdateReply}

/-- What an update leaves on both sides. -/
theorem copies_updateTitle : titleSetters.copies (s.updateTitle reply) =
    ⟨(s.title, s.rating), if reply.processed then some (annotateTitle s.title s.rating)
      else titleSetters.server s⟩ := by
  unfold World.updateTitle
  split <;> rfl

theorem copies_updateFeed : gameSetters.copies (s.updateFeed reply) =
    ⟨s.gameId, if reply.processed then gameSetters.view s.gameId
      else gameSetters.server s⟩ := by
  unfold World.updateFeed
  split <;> rfl

/-- A setter that stores and sends a new value, and leaves one that is not new. -/
theorem Setters.copies_ite {V S : Type} [DecidableEq V] {m : Setters V S} {set : V → V}
    {new : Prop} [Decidable new] {w : World} (hnew : new ↔ set (m.stored s) ≠ m.stored s)
    (hsent : m.copies w = ⟨set (m.stored s),
      if reply.processed then m.view (set (m.stored s)) else m.server s⟩) :
    m.copies (if new then w else s) =
      ChangeDetection.step m.view (m.copies s) (Setters.update set reply) := by
  by_cases h : new
  · have hchanges : (Setters.update set reply).Changes (m.copies s).stored := hnew.mp h
    rw [if_pos h, hsent, ChangeDetection.step_of_changes hchanges]
    rfl
  · have hsame : ¬ (Setters.update set reply).Changes (m.copies s).stored :=
      fun hchanges => h (hnew.mpr hchanges)
    rw [if_neg h, ChangeDetection.step_of_not_changes hsame]

theorem faithful_titleSetters : titleSetters.Faithful := by
  constructor
  · intro s call reply set hlive hset
    cases call with
    | setTitle title =>
        cases hset
        have hnew : title ≠ s.title ↔ (title, s.rating) ≠ (s.title, s.rating) := by
          simp
        rw [World.callSetter_setTitle hlive]
        exact Setters.copies_ite hnew copies_updateTitle
    | setRating rating =>
        cases hset
        have hnew : rating ≠ s.rating ↔ (s.title, rating) ≠ (s.title, s.rating) := by
          simp
        rw [World.callSetter_setRating hlive]
        exact Setters.copies_ite hnew copies_updateTitle
    | setGameId id => cases hset
  · intro s call reply hlive hset
    cases call with
    | setTitle title => cases hset
    | setRating rating => cases hset
    | setGameId id =>
        rw [World.callSetter_setGameId hlive]
        unfold World.updateFeed
        split_ifs <;> rfl

theorem faithful_gameSetters : gameSetters.Faithful := by
  constructor
  · intro s call reply set hlive hset
    cases call with
    | setTitle title => cases hset
    | setRating rating => cases hset
    | setGameId id =>
        cases hset
        rw [World.callSetter_setGameId hlive]
        exact Setters.copies_ite ne_comm copies_updateFeed
  · intro s call reply hlive hset
    cases call with
    | setTitle title =>
        rw [World.callSetter_setTitle hlive]
        unfold World.updateTitle
        split_ifs <;> rfl
    | setRating rating =>
        rw [World.callSetter_setRating hlive]
        unfold World.updateTitle
        split_ifs <;> rfl
    | setGameId id => cases hset

end

/-- A call repeated makes no request, whatever became of the first one. -/
theorem World.callSetter_again (s : World) (call : SetterCall) (reply reply' : UpdateReply)
    (hlive : s.state = .live) :
    (s.callSetter call reply).callSetter call reply' = s.callSetter call reply := by
  have hlive' : (s.callSetter call reply).state = .live := by
    rw [World.callSetter_state, hlive]
  cases call with
  | setTitle title =>
      have hsame : title = (s.callSetter (.setTitle title) reply).title := by
        rw [World.callSetter_setTitle hlive]
        split_ifs with hnew
        · rw [World.updateTitle_title]
        · exact not_not.mp hnew
      rw [World.callSetter_setTitle hlive']
      exact if_neg (not_not.mpr hsame)
  | setRating rating =>
      have hsame : rating = (s.callSetter (.setRating rating) reply).rating := by
        rw [World.callSetter_setRating hlive]
        split_ifs with hnew
        · rw [World.updateTitle_rating]
        · exact not_not.mp hnew
      rw [World.callSetter_setRating hlive']
      exact if_neg (not_not.mpr hsame)
  | setGameId id =>
      have hsame : (s.callSetter (.setGameId id) reply).gameId = id := by
        rw [World.callSetter_setGameId hlive]
        split_ifs with hnew
        · rw [World.updateFeed_gameId]
        · exact not_not.mp hnew
      rw [World.callSetter_setGameId hlive']
      exact if_neg (not_not.mpr hsame)

/-- **Repeated setters.**  The title and the game on the server are what the broadcast has,
after a last call that needed no request or succeeded, exactly if that call sets a new value
or finds nothing that an earlier update has failed to bring there. -/
theorem setters_law_iff (s : World) (hlive : s.state = .live)
    (calls : List (SetterCall × UpdateReply)) :
    (titleSetters.Law s calls ↔ titleSetters.Settles s calls) ∧
      (gameSetters.Law s calls ↔ gameSetters.Settles s calls) :=
  ⟨faithful_titleSetters.law_iff hlive, faithful_gameSetters.law_iff hlive⟩

/-- A broadcast that is live, with its title and its game on the server. -/
def liveBroadcast : World :=
  { World.init (toBytes "A") .none [] with
    state := .live
    startCall := .returned
    thread := .loopSleep 0 0
    stageTitle := some ⟨toBytes "A", 0⟩
    feedGame := some ⟨none, 0⟩ }

/-- A title whose update fails, and the same title again. -/
def titleAgain : List (SetterCall × UpdateReply) :=
  [(.setTitle (toBytes "B"), .failed false), (.setTitle (toBytes "B"), .succeeded)]

theorem setters_law_iff_again :
    (titleSetters.Law liveBroadcast titleAgain ↔ titleSetters.Settles liveBroadcast titleAgain) ∧
      (gameSetters.Law liveBroadcast titleAgain ↔ gameSetters.Settles liveBroadcast titleAgain) :=
  setters_law_iff liveBroadcast rfl titleAgain

/-- The second call needs no request, and the server still has the first title. -/
theorem titleAgain_not_sent : ¬ titleSetters.Law liveBroadcast titleAgain := by
  intro h
  have hlast : titleSetters.LastCall titleAgain [(.setTitle (toBytes "B"), .failed false)]
      (.setTitle (toBytes "B")) .succeeded :=
    ⟨rfl, [], rfl, by simp⟩
  have hsame : ¬ titleSetters.Changes (.setTitle (toBytes "B")) (toBytes "B", .none) := by
    rintro ⟨set, hset, hne⟩
    cases hset
    exact hne rfl
  have hserver : titleSetters.server (liveBroadcast.callSetters titleAgain) =
      titleSetters.view (titleSetters.stored (liveBroadcast.callSetters titleAgain)) :=
    h _ _ _ hlast (.inl hsame)
  exact absurd hserver (by decide)

end Caff
