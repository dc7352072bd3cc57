/-
# Ending a broadcast whose `startedCallback` is running

`Instance::endBroadcast` holds `broadcastMutex` while `Broadcast::stop` joins the broadcast
thread.  That thread calls the application's `startedCallback`, and a callback that sets a
title, sends a frame or asks for the connection quality goes through
`Instance::getBroadcast`, which takes `broadcastMutex`.  A callback that waits there while its
broadcast is being ended waits for ever, and so does `endBroadcast`.

The machine is that of `Dispatch.lean`, together with what each `startedCallback` is doing.
-/
import Caffeine.Dispatch

namespace Caff

open Machine (holds_of_some holds_of_guard)

/-! ## What a callback does -/

/-- The functions of the API that go through `getBroadcast`. -/
inductive BroadcastCall
  | setTitle (title : Bytes)
  | setRating (rating : Rating)
  | setGameId (id : Bytes)
  | sendAudio
  | sendVideo (width height : ℤ)
  | getConnectionQuality
  deriving DecidableEq, Repr

/-- The step of the broadcast that a call begins with, as call `i` on it; `sendAudio` and
`getConnectionQuality` change nothing. -/
def BroadcastCall.action (i : ℕ) : BroadcastCall → Option Action
  | .setTitle title => some (.setTitle i title)
  | .setRating rating => some (.setRating i rating)
  | .setGameId id => some (.setGameId i id)
  | .sendVideo width height => some (.sendVideo i width height)
  | .sendAudio | .getConnectionQuality => none

/-- Where a `startedCallback` is: outside of the API, in `getBroadcast`, back from it with a
broadcast, or in call `i` on that broadcast. -/
inductive Callback
  | running
  | waiting (call : BroadcastCall)
  | found (call : BroadcastCall) (b : ℕ)
  | inCall (b i : ℕ)
  deriving DecidableEq, Repr

def Callback.waits : Callback → Bool
  | .waiting _ => true
  | _ => false

/-! ## The machine -/

/-- `endBroadcast` has the lock for broadcast `b`. -/
def Dispatch.isEnding (s : Dispatch) (b : ℕ) : Bool :=
  match s.broadcastMutex with
  | some (.ending i _) => i = b
  | _ => false

structure Shutdown where
  dispatch : Dispatch := {}
  callbacks : ℕ → Callback := fun _ => .running  -- that of each broadcast

inductive ShutdownAction
  | dispatch (a : DispatchAction)
  | apiCall (b : ℕ) (call : BroadcastCall)
  | getBroadcast (b : ℕ)
  | perform (b i : ℕ)
  | apiReturn (b : ℕ)
  deriving DecidableEq, Repr

namespace Shutdown

/-- The thread of a broadcast takes its steps outside of the calls of its callback. -/
def allows (s : Shutdown) : DispatchAction → Bool
  | .broadcast b (.thread _) => s.callbacks b = .running
  | _ => true

/-- The callback of broadcast `b` goes on at `c`. -/
def setCallback (s : Shutdown) (b : ℕ) (c : Callback) : Shutdown :=
  { s with callbacks := Function.update s.callbacks b c }

@[simp] theorem setCallback_callbacks_self (s : Shutdown) (b : ℕ) (c : Callback) :
    (s.setCallback b c).callbacks b = c :=
  Function.update_self ..

theorem setCallback_callbacks_of_ne (s : Shutdown) {b i : ℕ} (c : Callback) (h : i ≠ b) :
    (s.setCallback b c).callbacks i = s.callbacks i :=
  Function.update_of_ne h ..

def step (s : Shutdown) : ShutdownAction → Option (Shutdown × List DispatchEvent)
  | .dispatch a =>
      if s.allows a then
        match s.dispatch.step a with
        | some (d, out) => some ({ s with dispatch := d }, out)
        | none => none
      else none
  -- the callback calls a function of the API
  | .apiCall b call =>
      if (s.dispatch.broadcasts b).any (·.thread = .startedCallback) ∧ s.callbacks b = .running
      then some (s.setCallback b (.waiting call), [])
      else none
  -- `getBroadcast` has the lock, and gives it back
  | .getBroadcast b =>
      match s.callbacks b with
      | .waiting call =>
          if s.dispatch.broadcastMutex = none then
            match s.dispatch.broadcast with
            | some i => some (s.setCallback b (.found call i), [])
            | none => some (s.setCallback b .running, [])
          else none
      | _ => none
  -- the call goes on with the broadcast it has found
  | .perform b i =>
      match s.callbacks b with
      | .found call b' =>
          match call.action i with
          | some a =>
              match s.dispatch.step (.broadcast b' a) with
              | some (d, out) => some (({ s with dispatch := d }).setCallback b (.inCall b' i), out)
              | none => none
          | none => some (s.setCallback b .running, [])
      | _ => none
  | .apiReturn b =>
      match s.callbacks b with
      | .inCall b' i =>
          if (s.dispatch.broadcasts b').any (·.calls i = .idle) then
            some (s.setCallback b .running, [])
          else none
      | _ => none

/-- `endBroadcast` has `broadcastMutex` and waits in `stop` for the broadcast thread, and that
thread waits in `startedCallback` for `broadcastMutex`. -/
def Deadlocked (s : Shutdown) : Prop :=
  ∃ b ender w, s.dispatch.broadcastMutex = some (.ending b ender) ∧
    s.dispatch.broadcasts b = some w ∧ w.stopCall = .joining ∧
    w.thread = .startedCallback ∧ (s.callbacks b).waits = true

/-- `endBroadcast` has `broadcastMutex` for a broadcast whose callback waits for it. -/
def Blocked (s : Shutdown) : Prop :=
  ∃ b, s.dispatch.isEnding b = true ∧ (s.callbacks b).waits = true

/-- The step closes the cycle: a callback calls for the lock while its broadcast is being
ended, or `endBroadcast` takes the lock while the callback of the broadcast waits for it. -/
def tangles (s : Shutdown) : ShutdownAction → Bool
  | .apiCall b _ => s.dispatch.isEnding b
  | .dispatch .endBroadcast | .dispatch .endTask =>
      s.dispatch.broadcast.any fun b => (s.callbacks b).waits
  | _ => false

end Shutdown

/-- The instance and its callbacks as a machine. -/
def shutdownMachine : Machine Shutdown ShutdownAction DispatchEvent := ⟨Shutdown.step⟩

/-- A run of an instance and its callbacks, from its construction. -/
def ShutdownRuns (tr : List (Shutdown × ShutdownAction)) (es : List DispatchEvent)
    (s : Shutdown) : Prop :=
  shutdownMachine.Run {} tr es s

/-- The step does not close the cycle. -/
def Untangled (s : Shutdown) (a : ShutdownAction) : Prop := s.tangles a = false

instance (s : Shutdown) (a : ShutdownAction) : Decidable (Untangled s a) :=
  inferInstanceAs (Decidable (_ = _))

/-- The step is one of `stop`. -/
def ShutdownAction.IsStop : ShutdownAction → Prop
  | .dispatch (.broadcast _ .stop) => True
  | _ => False

/-! ## What one step can do -/

inductive ShutdownMoves (s : Shutdown) :
    ShutdownAction → Shutdown → List DispatchEvent → Prop
  | dispatch (a : DispatchAction) (d : Dispatch) (out : List DispatchEvent)
      (ha : s.allows a = true) (hs : s.dispatch.step a = some (d, out)) :
      ShutdownMoves s (.dispatch a) { s with dispatch := d } out
  | apiCall (b : ℕ) (call : BroadcastCall) (w : World) (hb : s.dispatch.broadcasts b = some w)
      (ht : w.thread = .startedCallback) (hc : s.callbacks b = .running) :
      ShutdownMoves s (.apiCall b call) (s.setCallback b (.waiting call)) []
  | getBroadcast (b : ℕ) (call : BroadcastCall) (c : Callback) (hc : s.callbacks b = .waiting call)
      (hm : s.dispatch.broadcastMutex = none) (hfree : c.waits = false) :
      ShutdownMoves s (.getBroadcast b) (s.setCallback b c) []
  | perform (b i b' : ℕ) (call : BroadcastCall) (a : Action) (d : Dispatch)
      (out : List DispatchEvent) (hc : s.callbacks b = .found call b')
      (ha : call.action i = some a) (hs : s.dispatch.step (.broadcast b' a) = some (d, out)) :
      ShutdownMoves s (.perform b i) (({ s with dispatch := d }).setCallback b (.inCall b' i)) out
  | leave (a : ShutdownAction) (b : ℕ) (hc : s.callbacks b ≠ .running)
      (hfree : (s.callbacks b).waits = false) (ha : Untangled s a) :
      ShutdownMoves s a (s.setCallback b .running) []

section

variable {s s' : Shutdown} {a : ShutdownAction} {out : List DispatchEvent}

/-- **Inversion of a step.** -/
theorem shutdownMoves_of_step (h : s.step a = some (s', out)) : ShutdownMoves s a s' out := by
  cases a with
  | dispatch a =>
      rw [Shutdown.step] at h
      split at h
      · rename_i ha
        split at h
        · rename_i d out' hs
          exact holds_of_some h (.dispatch a d out' ha hs)
        · cases h
      · cases h
  | apiCall b call =>
      apply holds_of_guard h
      intro hguard
      obtain ⟨hthread, hc⟩ := hguard
      rcases hb : s.dispatch.broadcasts b with _ | w
      · rw [hb] at hthread
        cases hthread
      · rw [hb, Option.any_some, decide_eq_true_eq] at hthread
        exact .apiCall b call w hb hthread hc
  | getBroadcast b =>
      rw [Shutdown.step] at h
      split at h
      · rename_i call hc
        split at h
        · rename_i hm
          split at h
          · exact holds_of_some h (.getBroadcast b call _ hc hm rfl)
          · exact holds_of_some h (.getBroadcast b call _ hc hm rfl)
        · cases h
      · cases h
  | perform b i =>
      rw [Shutdown.step] at h
      split at h
      · rename_i call b' hc
        split at h
        · rename_i a ha
          split at h
          · rename_i d out' hs
            exact holds_of_some h (.perform b i b' call a d out' hc ha hs)
          · cases h
        · exact holds_of_some h (.leave _ b (by simp [hc]) (by rw [hc]; rfl) rfl)
      · cases h
  | apiReturn b =>
      rw [Shutdown.step] at h
      split at h
      · rename_i b' i hc
        exact holds_of_guard h fun _ => .leave _ b (by simp [hc]) (by rw [hc]; rfl) rfl
      · cases h

end

/-! ## The lock -/

/-- **What a step does to the lock**, as far as it is taken to end a broadcast. -/
inductive LockMoves (s : Dispatch) : DispatchAction → Dispatch → Prop
  | other (a : DispatchAction) {s' : Dispatch} (ha : a ≠ .endBroadcast ∧ a ≠ .endTask)
      (hm : ∀ b, s'.isEnding b = s.isEnding b) : LockMoves s a s'
  | leaveFree (a : DispatchAction) {s' : Dispatch} (hb : s.broadcast = none)
      (hm : s.broadcastMutex = none) (hm' : s'.broadcastMutex = none) : LockMoves s a s'
  | take (a : DispatchAction) {s' : Dispatch} (b : ℕ) (ender : Ender)
      (ha : a = .endBroadcast ∨ a = .endTask) (hm : s.broadcastMutex = none)
      (hb : s.broadcast = some b) (hm' : s'.broadcastMutex = some (.ending b ender)) :
      LockMoves s a s'
  | release {s' : Dispatch} (b : ℕ) (ender : Ender) (w : World)
      (hm : s.broadcastMutex = some (.ending b ender)) (hb : s.broadcasts b = some w)
      (hw : w.stopCall = .returned) (hm' : s'.broadcastMutex = none) :
      LockMoves s .finishEnd s'

section

variable {s s' : Dispatch} {a : DispatchAction} {out : List DispatchEvent}

theorem isEnding_of_free {b : ℕ} (hm : s.broadcastMutex = none) : s.isEnding b = false := by
  rw [Dispatch.isEnding, hm]

theorem isEnding_of_ending {b i : ℕ} {ender : Ender}
    (hm : s.broadcastMutex = some (.ending i ender)) : s.isEnding b = true ↔ i = b := by
  rw [Dispatch.isEnding, hm, decide_eq_true_eq]

theorem Dispatch.isEnding_iff {b : ℕ} :
    s.isEnding b = true ↔ ∃ ender, s.broadcastMutex = some (.ending b ender) := by
  unfold Dispatch.isEnding
  split
  · simp_all
  · rename_i hnot
    constructor
    · intro h
      cases h
    · rintro ⟨ender, hm⟩
      exact absurd hm (hnot b ender)

theorem lockMoves_of_takeToEnd (ha : a = .endBroadcast ∨ a = .endTask) (ender : Ender)
    (hm : s.broadcastMutex = none) (hm' : s'.broadcastMutex = (s.takeToEnd ender).broadcastMutex) :
    LockMoves s a s' := by
  rw [Dispatch.takeToEnd] at hm'
  split at hm'
  · rename_i b hb
    exact .take a b ender ha hm hb hm'
  · rename_i hb
    exact .leaveFree a hb hm (hm'.trans hm)

theorem lockMoves_of_step (h : s.step a = some (s', out)) : LockMoves s a s' := by
  cases a with
  | endBroadcast =>
      refine holds_of_guard (P := fun s' _ => LockMoves s .endBroadcast s') h fun hm => ?_
      exact lockMoves_of_takeToEnd (.inl rfl) .application hm rfl
  | endTask =>
      rw [Dispatch.step] at h
      split at h
      · rename_i τ ht
        split at h
        · rename_i hm
          split at h
          · exact holds_of_some (P := fun s' _ => LockMoves s .endTask s') h
              (lockMoves_of_takeToEnd (.inr rfl) (.task τ) hm rfl)
          · rename_i hb
            exact holds_of_some (P := fun s' _ => LockMoves s .endTask s') h
              (.leaveFree _ hb hm hm)
        · cases h
      · cases h
  | startBroadcast title rating gameId =>
      cases dispatchMoves_of_step h with
      | create _ _ _ hm hb => exact .other _ (by simp) (by simp [Dispatch.isEnding, hm])
      | stay => exact .other _ (by simp) fun _ => rfl
  | finishStart =>
      cases dispatchMoves_of_step h with
      | finishStart b hm => exact .other _ (by simp) (by simp [Dispatch.isEnding, hm])
      | stay => exact .other _ (by simp) fun _ => rfl
  | finishEnd =>
      cases dispatchMoves_of_step h with
      | finishEnd b w hm hb hw => exact .release b .application w hm hb hw rfl
      | finishTask b τ w hm hb hw => exact .release b (.task τ) w hm hb hw rfl
      | stay => exact .other _ (by simp) fun _ => rfl
  | _ => cases dispatchMoves_of_step h <;> exact .other _ (by simp) fun _ => rfl

end

/-! ## Callbacks run on the broadcast thread -/

section

variable {d d' : Dispatch} {tr : List (Dispatch × DispatchAction)} {es out : List DispatchEvent}
  {b : ℕ} {w : World}

/-- While the thread is in `startedCallback`, `stop` has not come back from joining it. -/
theorem DispatchRuns.stopCall_of_startedCallback (h : DispatchRuns tr es d)
    (hb : d.broadcasts b = some w) (ht : w.thread = .startedCallback) :
    w.stopCall = .notCalled ∨ w.stopCall = .joining := by
  obtain ⟨title, rating, gameId, tr', es', hruns⟩ := h.exists_runs hb
  have hjoin := hruns.joinInv.joined
  simp only [World.canJoin, ht, decide_eq_true_eq, reduceCtorEq, or_self, imp_false, not_or]
    at hjoin
  rcases hc : w.stopCall with _ | _ | _ | _
  · exact .inl rfl
  · exact .inr rfl
  · exact absurd hc hjoin.1
  · exact absurd hc hjoin.2

/-- Only a step of the thread itself takes it out of `startedCallback`. -/
theorem DispatchRuns.startedCallback_of_step (h : DispatchRuns tr es d) {a : DispatchAction}
    (hs : d.step a = some (d', out)) (hb : d.broadcasts b = some w)
    (ht : w.thread = .startedCallback) (ha : ∀ o, a ≠ .broadcast b (.thread o)) :
    ∃ w', d'.broadcasts b = some w' ∧ w'.thread = .startedCallback := by
  cases dispatchMoves_of_step hs with
  | create title rating gameId hm hslot =>
      have hbn : b ≠ d.next := by
        rintro rfl
        rw [h.inv.fresh d.next le_rfl] at hb
        cases hb
      exact ⟨w, (Function.update_of_ne hbn ..).trans hb, ht⟩
  | advance i a v v' out hi hallows hstep =>
      by_cases hbi : b = i
      · subst hbi
        refine ⟨v', Function.update_self .., ?_⟩
        rw [hb, Option.some.injEq] at hi
        subst hi
        rcases (moves_of_step hstep).cases_thread with ⟨o, rfl, -⟩ | ⟨-, -, hsame | ⟨hc, -⟩⟩
        · exact absurd rfl (ha o)
        · rw [hsame, ht]
        · -- the thread has been created before
          obtain ⟨title, rating, gameId, tr', es', hruns⟩ := h.exists_runs hb
          rw [hruns.startCall_of_thread (by simp [ht])] at hc
          cases hc
      · exact ⟨w, (Function.update_of_ne hbi ..).trans hb, ht⟩
  | _ => exact ⟨w, hb, ht⟩

end

/-- A callback that is in the API is on the thread of its broadcast. -/
def CallbackInv (s : Shutdown) : Prop :=
  ∀ b, s.callbacks b ≠ .running →
    ∃ w, s.dispatch.broadcasts b = some w ∧ w.thread = .startedCallback

section

variable {s s' : Shutdown} {a : ShutdownAction} {es out : List DispatchEvent}
  {tr : List (Dispatch × DispatchAction)}

/-- The instance takes a step of its own, or none. -/
theorem ShutdownMoves.dispatch_cases (h : ShutdownMoves s a s' out) :
    (s'.dispatch = s.dispatch ∧ out = []) ∨ ∃ a', s.dispatch.step a' = some (s'.dispatch, out) := by
  cases h with
  | dispatch a d out ha hs => exact .inr ⟨a, hs⟩
  | perform b i b' call a d out hc ha hs => exact .inr ⟨_, hs⟩
  | _ => exact .inl ⟨rfl, rfl⟩

theorem CallbackInv.of_dispatch (h : CallbackInv s) (hruns : DispatchRuns tr es s.dispatch)
    {a : DispatchAction} {d : Dispatch} (hs : s.dispatch.step a = some (d, out))
    (ha : ∀ b o, s.callbacks b ≠ .running → a ≠ .broadcast b (.thread o)) :
    CallbackInv { s with dispatch := d } := by
  intro b hc
  obtain ⟨w, hb, ht⟩ := h b hc
  exact hruns.startedCallback_of_step hs hb ht fun o => ha b o hc

theorem CallbackInv.setCallback (h : CallbackInv s) {b : ℕ} {c : Callback}
    (hc : c ≠ .running → ∃ w, s.dispatch.broadcasts b = some w ∧ w.thread = .startedCallback) :
    CallbackInv (s.setCallback b c) := by
  intro i hi
  by_cases hib : i = b
  · subst hib
    rw [s.setCallback_callbacks_self] at hi
    exact hc hi
  · rw [s.setCallback_callbacks_of_ne c hib] at hi
    exact h i hi

/-- **Step lemma.** -/
theorem CallbackInv.moves (h : CallbackInv s) (hruns : DispatchRuns tr es s.dispatch)
    (hmoves : ShutdownMoves s a s' out) : CallbackInv s' := by
  cases hmoves with
  | dispatch a d out ha hs =>
      apply h.of_dispatch hruns hs
      rintro b o hc rfl
      rw [Shutdown.allows, decide_eq_true_eq] at ha
      exact hc ha
  | apiCall b call w hb ht hc => exact h.setCallback fun _ => ⟨w, hb, ht⟩
  | getBroadcast b call c hc hm hfree => exact h.setCallback fun _ => h b (by simp [hc])
  | perform b i b' call a d out hc ha hs =>
      have hstep := h.of_dispatch hruns hs (by
        rintro b o - heq
        rw [(DispatchAction.broadcast.inj heq).2] at ha
        cases call <;> simp [BroadcastCall.action] at ha)
      exact hstep.setCallback fun _ => hstep b (by simp [hc])
  | leave a b hc hfree ha => exact h.setCallback fun hne => absurd rfl hne

/-! ## When the lock is waited for -/

/-- The callbacks do not wait for the lock of another broadcast than before. -/
theorem blocked_congr (hm : ∀ b, s'.dispatch.isEnding b = s.dispatch.isEnding b)
    (hc : ∀ b, (s'.callbacks b).waits = (s.callbacks b).waits) : s'.Blocked ↔ s.Blocked := by
  simp only [Shutdown.Blocked, hm, hc]

theorem not_blocked_of_free (hm : s.dispatch.broadcastMutex = none) : ¬ s.Blocked := by
  rintro ⟨b, hending, -⟩
  rw [isEnding_of_free hm] at hending
  cases hending

theorem waits_setCallback {b : ℕ} {c : Callback} (hc : c.waits = (s.callbacks b).waits) (i : ℕ) :
    ((s.setCallback b c).callbacks i).waits = (s.callbacks i).waits := by
  by_cases hib : i = b
  · rw [hib, s.setCallback_callbacks_self, hc]
  · rw [s.setCallback_callbacks_of_ne c hib]

/-- `endBroadcast` does not leave while a callback waits for the lock. -/
theorem CallbackInv.not_waits_of_returned (h : CallbackInv s)
    (hruns : DispatchRuns tr es s.dispatch) {b : ℕ} {w : World}
    (hb : s.dispatch.broadcasts b = some w) (hw : w.stopCall = .returned) :
    (s.callbacks b).waits = false := by
  rw [Bool.eq_false_iff]
  intro hwaits
  obtain ⟨v, hv, ht⟩ := h b (by rintro hc; simp [hc, Callback.waits] at hwaits)
  rw [hb, Option.some.injEq] at hv
  subst hv
  rcases hruns.stopCall_of_startedCallback hb ht with hc | hc <;> simp [hc] at hw

/-- A step of the instance by itself. -/
theorem CallbackInv.blocked_dispatch_iff (h : CallbackInv s)
    (hruns : DispatchRuns tr es s.dispatch) {a : DispatchAction} {d : Dispatch}
    (hs : s.dispatch.step a = some (d, out)) :
    ({ s with dispatch := d } : Shutdown).Blocked ↔ s.Blocked ∨ ¬ Untangled s (.dispatch a) := by
  have hlock := lockMoves_of_step hs
  cases hlock with
  | other a ha hm =>
      have huntangled : Untangled s (.dispatch a) := by
        cases a with
        | endBroadcast => exact absurd rfl ha.1
        | endTask => exact absurd rfl ha.2
        | _ => rfl
      have hsame : ({ s with dispatch := d } : Shutdown).Blocked ↔ s.Blocked :=
        blocked_congr hm fun _ => rfl
      simp [hsame, huntangled]
  | leaveFree a hb hm hm' =>
      have hbefore : ¬ s.Blocked := not_blocked_of_free hm
      have hafter : ¬ ({ s with dispatch := d } : Shutdown).Blocked :=
        not_blocked_of_free hm'
      have huntangled : Untangled s (.dispatch a) := by
        rw [Untangled, Shutdown.tangles.eq_def]
        split <;> simp_all
      simp [hbefore, hafter, huntangled]
  | take a b ender ha hm hb hm' =>
      have hbefore : ¬ s.Blocked := not_blocked_of_free hm
      have huntangled : Untangled s (.dispatch a) ↔ (s.callbacks b).waits = false := by
        rcases ha with rfl | rfl <;> simp [Untangled, Shutdown.tangles, hb]
      rw [huntangled, Bool.not_eq_false]
      constructor
      · rintro ⟨i, hi, hwaits⟩
        rw [(isEnding_of_ending hm').mp hi]
        exact .inr hwaits
      · rintro (hblocked | hwaits)
        · exact absurd hblocked hbefore
        · exact ⟨b, (isEnding_of_ending hm').mpr rfl, hwaits⟩
  | release b ender w hm hb hw hm' =>
      have hbefore : ¬ s.Blocked := by
        rintro ⟨i, hi, hwaits⟩
        rw [← (isEnding_of_ending hm).mp hi, h.not_waits_of_returned hruns hb hw] at hwaits
        cases hwaits
      have hafter : ¬ ({ s with dispatch := d } : Shutdown).Blocked :=
        not_blocked_of_free hm'
      have huntangled : Untangled s (.dispatch .finishEnd) := rfl
      simp [hbefore, hafter, huntangled]

/-- **Step lemma.**  The lock is waited for after a step if it was before, or if the step is
tangled. -/
theorem CallbackInv.blocked_iff (h : CallbackInv s) (hruns : DispatchRuns tr es s.dispatch)
    (hmoves : ShutdownMoves s a s' out) : s'.Blocked ↔ s.Blocked ∨ ¬ Untangled s a := by
  cases hmoves with
  | dispatch a d out ha hs => exact h.blocked_dispatch_iff hruns hs
  | apiCall b call w hb ht hc =>
      rw [Untangled, Shutdown.tangles, Bool.not_eq_false]
      constructor
      · rintro ⟨i, hm, hwaits⟩
        by_cases hib : i = b
        · exact .inr (hib ▸ hm)
        · rw [s.setCallback_callbacks_of_ne _ hib] at hwaits
          exact .inl ⟨i, hm, hwaits⟩
      · rintro (⟨i, hm, hwaits⟩ | hm)
        · have hib : i ≠ b := by
            rintro rfl
            simp [hc, Callback.waits] at hwaits
          refine ⟨i, hm, ?_⟩
          rw [s.setCallback_callbacks_of_ne _ hib]
          exact hwaits
        · exact ⟨b, hm, by rw [s.setCallback_callbacks_self]; rfl⟩
  | getBroadcast b call c hc hm hfree =>
      have hbefore : ¬ s.Blocked := not_blocked_of_free hm
      have hafter : ¬ (s.setCallback b c).Blocked := not_blocked_of_free hm
      simp [hbefore, hafter, Untangled, Shutdown.tangles]
  | perform b i b' call a d out hc ha hs =>
      have huntangled : Untangled s (.dispatch (.broadcast b' a)) := rfl
      have hstep := h.blocked_dispatch_iff hruns hs
      rw [or_iff_left (not_not.mpr huntangled)] at hstep
      have hwaits : (Callback.inCall b' i).waits = (s.callbacks b).waits := by rw [hc]; rfl
      have hsame : (({ s with dispatch := d }).setCallback b (.inCall b' i)).Blocked ↔
          ({ s with dispatch := d } : Shutdown).Blocked :=
        blocked_congr (fun _ => rfl) (waits_setCallback hwaits)
      rw [hsame, hstep]
      simp [Untangled, Shutdown.tangles]
  | leave a b hc hfree ha =>
      have hsame : (s.setCallback b .running).Blocked ↔ s.Blocked :=
        blocked_congr (fun _ => rfl) (waits_setCallback hfree.symm)
      simp [hsame, ha]

end

/-! ## Every run -/

section

variable {tr : List (Shutdown × ShutdownAction)} {es : List DispatchEvent} {s : Shutdown}

/-- **Run lemma.**  A run is one of the instance, and the lock is waited for at its end if and
only if one of its steps was tangled. -/
theorem ShutdownRuns.blocked_iff (h : ShutdownRuns tr es s) :
    (∃ tr', DispatchRuns tr' es s.dispatch) ∧ CallbackInv s ∧
      (s.Blocked ↔ ¬ Machine.Meets Untangled tr) := by
  have hinit : DispatchRuns [] [] ({} : Shutdown).dispatch := .refl _
  refine Machine.Run.induction_on_trace (I := fun tr es s =>
    (∃ tr', DispatchRuns tr' es s.dispatch) ∧ CallbackInv s ∧
      (s.Blocked ↔ ¬ Machine.Meets Untangled tr))
    ⟨⟨[], hinit⟩, fun b hc => absurd rfl hc, ?_⟩ ?_ h
  · have hfree : ¬ ({} : Shutdown).Blocked := not_blocked_of_free rfl
    simp [hfree]
  rintro tr es s a s' out ⟨⟨tr', hruns⟩, hinv, hblocked⟩ hs
  have hmoves := shutdownMoves_of_step hs
  refine ⟨?_, hinv.moves hruns hmoves, ?_⟩
  · rcases hmoves.dispatch_cases with ⟨hsame, hout⟩ | ⟨a', hstep⟩
    · rw [hsame, hout, List.append_nil]
      exact ⟨tr', hruns⟩
    · exact ⟨_, hruns.snoc hstep⟩
  · rw [hinv.blocked_iff hruns hmoves, hblocked, Machine.meets_snoc, not_and_or]

theorem Shutdown.Deadlocked.blocked (h : s.Deadlocked) : s.Blocked := by
  obtain ⟨b, ender, w, hm, -, -, -, hwaits⟩ := h
  exact ⟨b, Dispatch.isEnding_iff.mpr ⟨ender, hm⟩, hwaits⟩

/-- The lock is waited for for ever. -/
theorem ShutdownRuns.blocked_of_run (h : ShutdownRuns tr es s) (hblocked : s.Blocked)
    {tr' : List (Shutdown × ShutdownAction)} {es' : List DispatchEvent} {s' : Shutdown}
    (hrun : shutdownMachine.Run s tr' es' s') : s'.Blocked := by
  have hwhole : ShutdownRuns (tr ++ tr') (es ++ es') s' := h.trans hrun
  rw [hwhole.blocked_iff.2.2]
  intro huntangled
  exact h.blocked_iff.2.2.mp hblocked huntangled.of_append

/-- Where the lock is waited for, `endBroadcast` waits for the thread, or does once `stop` has
taken its first step. -/
theorem ShutdownRuns.deadlocked_of_blocked (h : ShutdownRuns tr es s) (hblocked : s.Blocked) :
    s.Deadlocked ∨ ∃ b s' out, s.step (.dispatch (.broadcast b .stop)) = some (s', out) ∧
      s'.Deadlocked := by
  obtain ⟨⟨tr', hruns⟩, hinv, -⟩ := h.blocked_iff
  obtain ⟨b, hending, hwaits⟩ := hblocked
  obtain ⟨ender, hm⟩ := Dispatch.isEnding_iff.mp hending
  obtain ⟨w, hb, ht⟩ := hinv b (by intro hc; simp [hc, Callback.waits] at hwaits)
  rcases hruns.stopCall_of_startedCallback hb ht with hstop | hstop
  · -- `stop` is about to store `Stopping`
    obtain ⟨title, rating, gameId, tr'', es', hworld⟩ := hruns.exists_runs hb
    have hreach : w.reachable = true := by
      rw [World.reachable, hworld.startCall_of_thread (by simp [ht])]
      rfl
    obtain ⟨w', hstep, hjoining, ht'⟩ : ∃ w', w.step .stop = some (w', [.stopStored]) ∧
        w'.stopCall = .joining ∧ w'.thread = w.thread := by
      refine ⟨{ w with state := .stopping, stopCall := .joining }, ?_, rfl, rfl⟩
      simp [World.step, World.stopStep, hstop, hreach]
    have hallows : s.dispatch.allows b .stop = true := by simp [Dispatch.allows, hm]
    have hs : s.step (.dispatch (.broadcast b .stop)) =
        some ({ s with dispatch := s.dispatch.advance b w' [.stopStored] },
          [.broadcast b .stopStored]) := by
      simp [Shutdown.step, Shutdown.allows, Dispatch.step, hb, hallows, hstep]
    exact .inr ⟨b, _, _, hs, b, ender, w', hm, Function.update_self .., hjoining, ht'.trans ht,
      hwaits⟩
  · exact .inl ⟨b, ender, w, hm, hb, hstop, ht, hwaits⟩

theorem untangled_of_isStop {a : ShutdownAction} (ha : a.IsStop) : Untangled s a := by
  unfold ShutdownAction.IsStop at ha
  split at ha
  · rfl
  · cases ha

/-- **Deadlocks.**  A run comes to no deadlock, and to none by letting `stop` go on at its
end, if and only if none of its steps is tangled. -/
theorem not_deadlocked_iff (h : ShutdownRuns tr es s) :
    (∀ tr' es' s', shutdownMachine.Run s tr' es' s' →
      Machine.Meets (fun _ a => a.IsStop) tr' → ¬ s'.Deadlocked) ↔
      Machine.Meets Untangled tr := by
  constructor
  · intro hfree
    by_contra htangled
    have hblocked := h.blocked_iff.2.2.mpr htangled
    rcases h.deadlocked_of_blocked hblocked with hdead | ⟨b, s', out, hs, hdead⟩
    · exact hfree [] [] s (.refl s) (Machine.meets_nil _) hdead
    · have hrun : shutdownMachine.Run s [(s, .dispatch (.broadcast b .stop))] out s' := .single hs
      refine hfree _ out s' hrun (fun p hp => ?_) hdead
      rw [List.mem_singleton.mp hp]
      trivial
  · intro huntangled tr' es' s' hrun hstop hdead
    have hwhole : ShutdownRuns (tr ++ tr') (es ++ es') s' := h.trans hrun
    apply hwhole.blocked_iff.2.2.mp hdead.blocked
    intro p hp
    rcases List.mem_append.mp hp with hp | hp
    · exact huntangled p hp
    · exact untangled_of_isStop (hstop p hp)

end

/-! ## A callback that sets the title -/

/-- The steps of an instance whose broadcast comes to its `startedCallback`, which calls
`caff_setTitle`. -/
def titleInCallbackActions : List ShutdownAction :=
  .dispatch (.startBroadcast [] .none []) :: feedActions.map (.dispatch <| .broadcast 0 ·) ++
    .dispatch .finishStart :: List.replicate 6 (.dispatch (.broadcast 0 (.thread .success))) ++
    [.apiCall 0 (.setTitle [104, 105])]

/-- The steps of a callback whose title is set before the broadcast is ended. -/
def endAfterCallbackActions : List ShutdownAction :=
  titleInCallbackActions ++
    [.getBroadcast 0, .perform 0 0, .dispatch (.broadcast 0 (.call 0 .success)), .apiReturn 0,
      .dispatch (.broadcast 0 (.thread .success)), .dispatch .endBroadcast]

theorem not_deadlocked_iff_endAfterCallback :
    ∃ tr es s, ShutdownRuns tr es s ∧ tr.map Prod.snd = endAfterCallbackActions ∧
      .broadcast 0 .startedCallback ∈ es ∧
      s.dispatch.broadcastMutex = some (.ending 0 .application) ∧
      ∀ tr' es' s', shutdownMachine.Run s tr' es' s' →
        Machine.Meets (fun _ a => a.IsStop) tr' → ¬ s'.Deadlocked := by
  obtain ⟨s, es, hexec, hes, hm⟩ : ∃ s es,
      shutdownMachine.exec {} endAfterCallbackActions = some (s, es) ∧
      .broadcast 0 .startedCallback ∈ es ∧
      s.dispatch.broadcastMutex = some (.ending 0 .application) :=
    ⟨_, _, rfl, by decide, rfl⟩
  have hrun := Machine.Run.of_exec hexec
  have huntangled : Machine.Meets Untangled
      (shutdownMachine.trace {} endAfterCallbackActions) := by decide
  exact ⟨_, es, s, hrun, Machine.map_snd_trace hexec, hes, hm,
    (not_deadlocked_iff hrun).mpr huntangled⟩

/-- The steps of an application that ends the broadcast before its callback has set the
title. -/
def endInCallbackActions : List ShutdownAction :=
  titleInCallbackActions ++ [.dispatch .endBroadcast, .dispatch (.broadcast 0 .stop)]

/-- `endBroadcast` waits for the thread, and the thread for the lock. -/
theorem not_not_deadlocked_endInCallback :
    ¬ ∀ tr es s, ShutdownRuns tr es s → ¬ s.Deadlocked := by
  obtain ⟨s, es, hexec, hm, w, hw, hstop, ht, hwaits⟩ : ∃ s es,
      shutdownMachine.exec {} endInCallbackActions = some (s, es) ∧
      s.dispatch.broadcastMutex = some (.ending 0 .application) ∧
      ∃ w, s.dispatch.broadcasts 0 = some w ∧ w.stopCall = .joining ∧
        w.thread = .startedCallback ∧ (s.callbacks 0).waits = true :=
    ⟨_, _, rfl, rfl, _, rfl, rfl, rfl, rfl⟩
  intro hall
  exact hall _ es s (.of_exec hexec) ⟨0, .application, w, hm, hw, hstop, ht, hwaits⟩

end Caff
