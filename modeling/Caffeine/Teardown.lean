/-
# The destruction of an instance

`caff_freeInstance` deletes the instance.  `~Instance` does not end a broadcast, and the
members are destroyed in the reverse order of their declaration: `broadcastMutex` and
`broadcast` before `taskQueue`.  A broadcast that loses its last reference is destroyed, and
with it its `broadcastThread`; if that is still joinable the process is terminated.  A failure
task that is run before the queue is destroyed finds neither the lock nor the slot.

The machine is that of `Dispatch.lean`, together with the references to each broadcast and with
the members the instance still has.
-/
import Mathlib.Data.List.Infix
import Caffeine.Dispatch

namespace Caff

open Machine (holds_of_some holds_of_guard)

/-! ## Members and references -/

/-- The members of `Instance`. -/
inductive Member
  | audioDevice
  | factory
  | networkThread
  | workerThread
  | signalingThread
  | taskQueue
  | sharedCredentials
  | broadcast
  | broadcastMutex
  | refreshToken
  | userInfo
  | gameList
  deriving DecidableEq, Repr

/-- The members in the order of their declaration. -/
def Member.declared : List Member :=
  [.audioDevice, .factory, .networkThread, .workerThread, .signalingThread, .taskQueue,
    .sharedCredentials, .broadcast, .broadcastMutex, .refreshToken, .userInfo, .gameList]

/-- Whose reference was the last one to a broadcast. -/
inductive Destroyer
  | freeInstance
  | otherHolder
  deriving DecidableEq, Repr

/-- The broadcast thread has been created and not been joined. -/
def World.joinable (s : World) : Bool :=
  s.thread ≠ .notCreated ∧ (s.stopCall = .notCalled ∨ s.stopCall = .joining)

/-- The task still has to look for its broadcast, to end it, or to let go of the lock. -/
def TaskState.usesMembers : TaskState → Bool
  | .found _ | .ending _ => true
  | .idle | .calling _ => false

namespace Dispatch

/-- The failure task that uses the lock and the slot in a step. -/
def user (s : Dispatch) : DispatchAction → Option Task
  | .checkTask =>
      match s.task, s.taskQueue with
      | .idle, τ :: _ => some τ
      | _, _ => none
  | .endTask =>
      match s.task with
      | .found τ => some τ
      | _ => none
  | .finishEnd =>
      match s.broadcastMutex with
      | some (.ending b (.task τ)) =>
          if (s.broadcasts b).any (·.stopCall = .returned) then some τ else none
      | _ => none
  | _ => none

/-- Broadcast `b` reports a failure in its step. -/
def reportsFailure (s : Dispatch) (b : ℕ) (a : Action) : Bool :=
  (s.broadcasts b).any fun w => (w.step a).any fun r => r.2.any fun e => e.failure.isSome

end Dispatch

/-! ## The machine -/

structure Teardown where
  dispatch : Dispatch := {}
  references : ℕ → ℕ := fun _ => 0  -- to each broadcast, other than that of the instance
  destroyed : ℕ → Bool := fun _ => false
  freeing : Bool := false
  alive : List Member := Member.declared.reverse  -- in the order they will be destroyed
  ended : Bool := false  -- the process has been terminated, or has no defined behaviour any more

inductive TeardownEvent
  | dispatch (e : DispatchEvent)
  | destroyed (b : ℕ) (destroyer : Destroyer) (joinable : Bool)
  | usedDestroyed (τ : Task) (m : Member)
  deriving DecidableEq, Repr

inductive TeardownAction
  | dispatch (a : DispatchAction)
  | acquire (b : ℕ)
  | release (b : ℕ)
  | freeInstance
  | destroyMember
  deriving DecidableEq, Repr

namespace Teardown

/-- The application makes no call on an instance it frees, a destroyed broadcast does nothing,
and a task is run by its queue. -/
def allows (s : Teardown) : DispatchAction → Bool
  | .startBroadcast .. | .endBroadcast => !s.freeing
  | .broadcast b _ => !s.destroyed b
  | .checkTask | .endTask | .callTask => .taskQueue ∈ s.alive
  | .finishStart | .finishEnd => true

/-- The members a failure task uses, as far as they have been destroyed. -/
def lost (s : Teardown) : List Member :=
  [.broadcastMutex, .broadcast].filter (· ∉ s.alive)

/-- The references after a step of the instance: `endBroadcast` hands that of the instance to
the thread it detaches. -/
def referencesAfter (s : Teardown) : DispatchAction → ℕ → ℕ
  | .finishEnd =>
      match s.dispatch.broadcast with
      | some b => Function.update s.references b (s.references b + 1)
      | none => s.references
  | _ => s.references

/-- Broadcast `b` is destroyed if no reference to it is left. -/
def destroyUnreferenced (s : Teardown) (b : ℕ) (destroyer : Destroyer) :
    Teardown × List TeardownEvent :=
  if s.references b = 0 ∧ s.dispatch.broadcast ≠ some b then
    let joinable := (s.dispatch.broadcasts b).any World.joinable
    ({ s with destroyed := Function.update s.destroyed b true, ended := joinable },
      [.destroyed b destroyer joinable])
  else (s, [])

/-- The destructor of a member, before those of `ms`.  A task queue waits for the task it is
in and does not run those that are left. -/
def destroyMember (s : Teardown) (m : Member) (ms : List Member) :
    Option (Teardown × List TeardownEvent) :=
  match m with
  | .broadcast =>
      match s.dispatch.broadcast with
      | some b =>
          some (({ s with
            alive := ms
            dispatch := { s.dispatch with broadcast := none } }).destroyUnreferenced b
              .freeInstance)
      | none => some ({ s with alive := ms }, [])
  | .taskQueue =>
      if s.dispatch.task = .idle then
        some ({ s with alive := ms, dispatch := { s.dispatch with taskQueue := [] } }, [])
      else none
  | _ => some ({ s with alive := ms }, [])

/-- A step of the instance by itself. -/
def dispatchStep (s : Teardown) (a : DispatchAction) : Option (Teardown × List TeardownEvent) :=
  match s.dispatch.user a, s.lost with
  | some τ, m :: ms => some ({ s with ended := true }, (m :: ms).map (.usedDestroyed τ))
  | _, _ =>
      match s.dispatch.step a with
      | some (d, out) =>
          some ({ s with dispatch := d, references := s.referencesAfter a }, out.map .dispatch)
      | none => none

def step (s : Teardown) (a : TeardownAction) : Option (Teardown × List TeardownEvent) :=
  if s.ended then none
  else
    match a with
    | .dispatch a => if s.allows a then s.dispatchStep a else none
    -- `getBroadcast`, or a handler that locks the broadcast
    | .acquire b =>
        if s.destroyed b = false ∧ (s.dispatch.broadcasts b).any World.reachable then
          some ({ s with references := Function.update s.references b (s.references b + 1) }, [])
        else none
    | .release b =>
        if 0 < s.references b then
          some (({ s with
            references := Function.update s.references b (s.references b - 1) }).destroyUnreferenced
              b .otherHolder)
        else none
    | .freeInstance => if s.freeing then none else some ({ s with freeing := true }, [])
    | .destroyMember =>
        match s.freeing, s.alive with
        | true, m :: ms => s.destroyMember m ms
        | _, _ => none

/-- The step leaves no task and no thread behind: when `broadcastMutex` is destroyed no failure
task is left that uses it, none is posted from then until the queue is destroyed, and when
`broadcast` is destroyed there is no thread to join. -/
def isTidy (s : Teardown) : TeardownAction → Bool
  | .destroyMember =>
      match s.alive with
      | .broadcastMutex :: _ => s.dispatch.taskQueue.isEmpty && !s.dispatch.task.usesMembers
      | .broadcast :: _ =>
          !s.dispatch.broadcast.any fun b => (s.dispatch.broadcasts b).any World.joinable
      | _ => true
  | .dispatch (.broadcast b a) =>
      .broadcastMutex ∈ s.alive || .taskQueue ∉ s.alive || !s.dispatch.reportsFailure b a
  | _ => true

end Teardown

/-- The instance and its destruction as a machine. -/
def teardownMachine : Machine Teardown TeardownAction TeardownEvent := ⟨Teardown.step⟩

/-- A run of an instance from its construction. -/
def TeardownRuns (tr : List (Teardown × TeardownAction)) (es : List TeardownEvent)
    (s : Teardown) : Prop :=
  teardownMachine.Run {} tr es s

def Tidy (s : Teardown) (a : TeardownAction) : Prop := s.isTidy a = true

instance (s : Teardown) (a : TeardownAction) : Decidable (Tidy s a) :=
  inferInstanceAs (Decidable (_ = _))

/-- No broadcast is destroyed with a thread to join, and no failure task uses the lock or the
slot once they have been destroyed. -/
structure SafeTeardown (es : List TeardownEvent) : Prop where
  joined : ∀ b destroyer, .destroyed b destroyer true ∉ es
  used : ∀ τ m, .usedDestroyed τ m ∉ es

/-! ## What one step can do -/

inductive TeardownMoves (s : Teardown) :
    TeardownAction → Teardown → List TeardownEvent → Prop
  | dispatch (a : DispatchAction) (d : Dispatch) (out : List DispatchEvent)
      (ha : s.allows a = true) (hs : s.dispatch.step a = some (d, out))
      (hu : s.dispatch.user a = none ∨ s.lost = []) :
      TeardownMoves s (.dispatch a) { s with dispatch := d, references := s.referencesAfter a }
        (out.map .dispatch)
  | useDestroyed (a : DispatchAction) (τ : Task) (ha : s.allows a = true)
      (hu : s.dispatch.user a = some τ) (hlost : s.lost ≠ []) :
      TeardownMoves s (.dispatch a) { s with ended := true } (s.lost.map (.usedDestroyed τ))
  | acquire (b : ℕ) (w : World) (hd : s.destroyed b = false)
      (hb : s.dispatch.broadcasts b = some w) (hw : w.reachable = true) :
      TeardownMoves s (.acquire b)
        { s with references := Function.update s.references b (s.references b + 1) } []
  | release (b : ℕ) (t : Teardown) (hr : 0 < s.references b)
      (ht : t = { s with references := Function.update s.references b (s.references b - 1) }) :
      TeardownMoves s (.release b) (t.destroyUnreferenced b .otherHolder).1
        (t.destroyUnreferenced b .otherHolder).2
  | freeInstance (hf : s.freeing = false) :
      TeardownMoves s .freeInstance { s with freeing := true } []
  | destroyBroadcast (b : ℕ) (ms : List Member) (t : Teardown) (hf : s.freeing = true)
      (halive : s.alive = .broadcast :: ms) (hb : s.dispatch.broadcast = some b)
      (ht : t = { s with
        alive := ms
        dispatch := { s.dispatch with broadcast := none } }) :
      TeardownMoves s .destroyMember (t.destroyUnreferenced b .freeInstance).1
        (t.destroyUnreferenced b .freeInstance).2
  | destroyQueue (ms : List Member) (hf : s.freeing = true)
      (halive : s.alive = .taskQueue :: ms) (ht : s.dispatch.task = .idle) :
      TeardownMoves s .destroyMember
        { s with alive := ms, dispatch := { s.dispatch with taskQueue := [] } } []
  | destroyMember (m : Member) (ms : List Member) (hf : s.freeing = true)
      (halive : s.alive = m :: ms) (hm : m ≠ .taskQueue)
      (hb : m = .broadcast → s.dispatch.broadcast = none) :
      TeardownMoves s .destroyMember { s with alive := ms } []

section

variable {s s' : Teardown} {a : TeardownAction} {out : List TeardownEvent}

theorem teardownMoves_of_destroyMember {m : Member} {ms : List Member} (hf : s.freeing = true)
    (halive : s.alive = m :: ms) (h : s.destroyMember m ms = some (s', out)) :
    TeardownMoves s .destroyMember s' out := by
  cases m with
  | broadcast =>
      rw [Teardown.destroyMember] at h
      split at h
      · rename_i b hb
        exact holds_of_some h (.destroyBroadcast b ms _ hf halive hb rfl)
      · rename_i hb
        exact holds_of_some h (.destroyMember _ ms hf halive (by simp) fun _ => hb)
  | taskQueue => exact holds_of_guard h fun ht => .destroyQueue ms hf halive ht
  | _ => exact holds_of_some h (.destroyMember _ ms hf halive (by simp) (by simp))

theorem teardownMoves_of_dispatchStep {a : DispatchAction} (ha : s.allows a = true)
    (h : s.dispatchStep a = some (s', out)) : TeardownMoves s (.dispatch a) s' out := by
  unfold Teardown.dispatchStep at h
  split at h
  · rename_i τ m ms hu hlost
    rw [← hlost] at h
    exact holds_of_some h (.useDestroyed a τ ha hu (by simp [hlost]))
  · rename_i hnot
    have hu : s.dispatch.user a = none ∨ s.lost = [] := by
      rcases hu : s.dispatch.user a with _ | τ
      · exact .inl rfl
      · rcases hlost : s.lost with _ | ⟨m, ms⟩
        · exact .inr rfl
        · exact absurd hlost (hnot τ m ms hu)
    split at h
    · rename_i d out' hs
      exact holds_of_some h (.dispatch a d out' ha hs hu)
    · cases h

/-- **Inversion of a step.** -/
theorem teardownMoves_of_step (h : s.step a = some (s', out)) :
    s.ended = false ∧ TeardownMoves s a s' out := by
  rw [Teardown.step.eq_def] at h
  split at h
  · cases h
  rename_i hended
  refine ⟨by simpa using hended, ?_⟩
  cases a with
  | dispatch a =>
      simp only at h
      split at h
      · rename_i ha
        exact teardownMoves_of_dispatchStep ha h
      · cases h
  | acquire b =>
      apply holds_of_guard h
      intro hguard
      obtain ⟨hd, hreach⟩ := hguard
      rcases hb : s.dispatch.broadcasts b with _ | w
      · rw [hb] at hreach
        cases hreach
      · rw [hb, Option.any_some] at hreach
        exact .acquire b w hd hb hreach
  | release b => exact holds_of_guard h fun hr => .release b _ hr rfl
  | freeInstance =>
      simp only at h
      split at h
      · cases h
      · rename_i hf
        exact holds_of_some h (.freeInstance (by simpa using hf))
  | destroyMember =>
      simp only at h
      split at h
      · rename_i m ms hf halive
        exact teardownMoves_of_destroyMember hf halive h
      · cases h

end

/-! ## The members left -/

/-- The task queue outlives the slot, and the slot the lock. -/
theorem mem_of_mem_tails {alive : List Member} (h : alive ∈ Member.declared.reverse.tails) :
    (.broadcastMutex ∈ alive → .broadcast ∈ alive) ∧ (.broadcast ∈ alive → .taskQueue ∈ alive) := by
  have hall : ∀ l ∈ Member.declared.reverse.tails,
      (.broadcastMutex ∈ l → .broadcast ∈ l) ∧ (.broadcast ∈ l → .taskQueue ∈ l) := by decide
  exact hall alive h

/-- A member is not destroyed twice. -/
theorem not_mem_of_cons_mem_tails {m : Member} {ms : List Member}
    (h : m :: ms ∈ Member.declared.reverse.tails) : m ∉ ms := by
  have hnodup : Member.declared.reverse.Nodup := by decide
  exact (List.nodup_cons.mp (hnodup.sublist ((List.mem_tails _ _).mp h).sublist)).1

theorem mem_tails_of_cons {m : Member} {ms : List Member}
    (h : m :: ms ∈ Member.declared.reverse.tails) : ms ∈ Member.declared.reverse.tails :=
  (List.mem_tails _ _).mpr ((List.suffix_cons m ms).trans ((List.mem_tails _ _).mp h))

/-! ## What the steps of a broadcast keep -/

section

variable {w w' : World} {a : Action} {out : List Event}

theorem Moves.reachable (h : Moves w a w' out) (hw : w.reachable = true) :
    w'.reachable = true := by
  cases h with
  | thread hthread =>
      rw [World.reachable, hthread.startCall_eq]
      exact hw
  | other a ha hcore hvideo hout =>
      rw [World.reachable, hcore.startCall]
      exact hw
  | start hc => simp [World.reachable, hc] at hw
  | createThread hc => rfl
  | raise hc => rfl
  | _ => exact hw

/-- A broadcast whose `start` has come back gets no thread to join any more. -/
theorem Moves.joinable (h : Moves w a w' out) (hw : w.reachable = true)
    (hj : w.joinable = false) : w'.joinable = false := by
  cases h with
  | thread hthread =>
      have hcreated : w.thread ≠ .notCreated := by
        intro hnot
        have hrunning := hthread.running
        rw [hnot] at hrunning
        cases hrunning
      simp only [World.joinable, decide_eq_false_iff_not, not_and, hthread.stopCall_eq] at hj ⊢
      exact fun _ => hj hcreated
  | other a ha hcore hvideo hout =>
      rw [World.joinable, hcore.thread, hcore.stopCall]
      exact hj
  | createThread hc => simp [World.reachable, hc] at hw
  | storeStopping hc hr => simpa [World.joinable, hc] using hj
  | join hc hcan => simp [World.joinable]
  | storeOffline hc => simp [World.joinable]
  | _ => exact hj

theorem not_joinable_of_returned (hw : w.stopCall = .returned) : w.joinable = false := by
  simp [World.joinable, hw]

end

/-- `finishEnd` takes the broadcast that has been stopped out of the slot. -/
theorem Dispatch.finishEnd_cases {d d' : Dispatch} {out : List DispatchEvent}
    (h : d.step .finishEnd = some (d', out)) :
    ∃ b ender w, d.broadcastMutex = some (.ending b ender) ∧ d.broadcasts b = some w ∧
      w.stopCall = .returned ∧ d' = { d with
        broadcast := none
        broadcastMutex := none
        task := match ender with
          | .application => d.task
          | .task τ => .calling τ } := by
  rw [Dispatch.step] at h
  split at h
  · rename_i b ender hm
    split at h
    · rename_i hw
      rcases hb : d.broadcasts b with _ | w
      · rw [hb] at hw
        cases hw
      · rw [hb, Option.any_some, decide_eq_true_eq] at hw
        rw [Option.some.injEq, Prod.mk.injEq] at h
        exact ⟨b, ender, w, hm, hb, hw, h.1.symm⟩
    · cases h
  · cases h

/-- A broadcast is the one that has been set, or was there before. -/
theorem eq_or_of_update {broadcasts : ℕ → Option World} {i b : ℕ} {v w : World}
    (h : Function.update broadcasts i (some v) b = some w) :
    (b = i ∧ v = w) ∨ broadcasts b = some w := by
  by_cases hbi : b = i
  · subst hbi
    rw [Function.update_self, Option.some.injEq] at h
    exact .inl ⟨rfl, h⟩
  · rw [Function.update_of_ne hbi] at h
    exact .inr h

/-! ## References -/

/-- The members fit to the steps of the instance. -/
structure MemberInv (s : Teardown) : Prop where
  suffix : s.alive ∈ Member.declared.reverse.tails
  whole : s.freeing = false → s.alive = Member.declared.reverse
  /-- Up to the destruction of the slot the instance is in order. -/
  dispatch : .broadcast ∈ s.alive → DispatchInv s.dispatch
  slot : .broadcast ∉ s.alive → s.dispatch.broadcast = none
  join : ∀ b w, s.dispatch.broadcasts b = some w → JoinInv w

/-- The references fit to the broadcasts; `pending` has lost one, and is to be looked at. -/
structure ReferenceInv (pending : Option ℕ) (s : Teardown) : Prop where
  fresh : ∀ b, s.dispatch.broadcasts b = none → s.destroyed b = false
  held : ∀ b, pending ≠ some b → (s.dispatch.broadcasts b).isSome = true →
    s.destroyed b = false → s.dispatch.broadcast = some b ∨ 0 < s.references b
  gone : ∀ b, s.destroyed b = true → s.references b = 0 ∧ s.dispatch.broadcast ≠ some b
  reachable : ∀ b, 0 < s.references b →
    ∃ w, s.dispatch.broadcasts b = some w ∧ w.reachable = true

section

variable {s s' : Teardown} {a : TeardownAction} {out : List TeardownEvent}

theorem memberInv_init : MemberInv {} where
  suffix := by decide
  whole _ := rfl
  dispatch _ := dispatchInv_init
  slot h := absurd (by decide) h
  join b w h := by cases h

theorem referenceInv_init : ReferenceInv none {} where
  fresh _ _ := rfl
  held b _ h := by cases h
  gone b h := by cases h
  reachable b h := by cases h

@[simp] theorem destroyUnreferenced_dispatch (s : Teardown) (b : ℕ) (destroyer : Destroyer) :
    (s.destroyUnreferenced b destroyer).1.dispatch = s.dispatch := by
  unfold Teardown.destroyUnreferenced
  split <;> rfl

@[simp] theorem destroyUnreferenced_alive (s : Teardown) (b : ℕ) (destroyer : Destroyer) :
    (s.destroyUnreferenced b destroyer).1.alive = s.alive := by
  unfold Teardown.destroyUnreferenced
  split <;> rfl

@[simp] theorem destroyUnreferenced_freeing (s : Teardown) (b : ℕ) (destroyer : Destroyer) :
    (s.destroyUnreferenced b destroyer).1.freeing = s.freeing := by
  unfold Teardown.destroyUnreferenced
  split <;> rfl

/-- The broadcast that has lost a reference is destroyed if it was the last. -/
theorem ReferenceInv.destroyUnreferenced {b : ℕ} (h : ReferenceInv (some b) s)
    (hb : (s.dispatch.broadcasts b).isSome = true) (destroyer : Destroyer) :
    ReferenceInv none (s.destroyUnreferenced b destroyer).1 := by
  unfold Teardown.destroyUnreferenced
  split
  · rename_i hlast
    refine ⟨fun i hi => ?_, fun i _ hi hd => ?_, fun i hd => ?_, h.reachable⟩
    · have hib : i ≠ b := by
        rintro rfl
        have hi : s.dispatch.broadcasts i = none := hi
        rw [hi] at hb
        cases hb
      exact (Function.update_of_ne hib ..).trans (h.fresh i hi)
    · by_cases hib : i = b
      · subst hib
        have hd : Function.update s.destroyed i true i = false := hd
        rw [Function.update_self] at hd
        cases hd
      · exact h.held i (by simpa using Ne.symm hib) hi
          ((Function.update_of_ne hib ..).symm.trans hd)
    · by_cases hib : i = b
      · subst hib
        exact hlast
      · exact h.gone i ((Function.update_of_ne hib ..).symm.trans hd)
  · rename_i hleft
    refine ⟨h.fresh, fun i _ hi hd => ?_, h.gone, h.reachable⟩
    by_cases hib : i = b
    · subst hib
      by_cases hslot : s.dispatch.broadcast = some i
      · exact .inl hslot
      · exact .inr (Nat.pos_of_ne_zero fun hzero => hleft ⟨hzero, hslot⟩)
    · exact h.held i (by simpa using Ne.symm hib) hi hd

theorem MemberInv.congr (h : MemberInv s) (hd : s'.dispatch = s.dispatch)
    (hf : s'.freeing = s.freeing) (halive : s'.alive = s.alive) : MemberInv s' where
  suffix := halive ▸ h.suffix
  whole := by
    rw [hf, halive]
    exact h.whole
  dispatch := by
    rw [hd, halive]
    exact h.dispatch
  slot := by
    rw [hd, halive]
    exact h.slot
  join := by
    rw [hd]
    exact h.join

/-- An instance that is not being freed has its members. -/
theorem MemberInv.mem_of_not_freeing (h : MemberInv s) (hf : s.freeing = false) (m : Member) :
    m ∈ s.alive := by
  rw [h.whole hf]
  cases m <;> decide

theorem MemberInv.freeing_of_not_mem (h : MemberInv s) {m : Member} (hm : m ∉ s.alive) :
    s.freeing = true := by
  by_contra hf
  exact hm (h.mem_of_not_freeing (by simpa using hf) m)

/-- A step of the instance by itself. -/
theorem MemberInv.of_dispatch (h : MemberInv s) {a : DispatchAction} {d : Dispatch}
    {out : List DispatchEvent} (ha : s.allows a = true) (hs : s.dispatch.step a = some (d, out))
    (references : ℕ → ℕ) : MemberInv { s with dispatch := d, references } := by
  have hmoves := dispatchMoves_of_step hs
  refine ⟨h.suffix, h.whole, fun hm => (h.dispatch hm).moves hmoves, fun hm => ?_, fun b w hb => ?_⟩
  · have hslot := h.slot hm
    cases hmoves with
    | create =>
        rw [Teardown.allows, h.freeing_of_not_mem hm] at ha
        cases ha
    | finishEnd => rfl
    | finishTask => rfl
    | _ => exact hslot
  · have hb : d.broadcasts b = some w := hb
    cases hmoves with
    | create title rating gameId hm hslot =>
        rcases eq_or_of_update hb with ⟨-, rfl⟩ | hb
        · exact joinInv_init title rating gameId
        · exact h.join b w hb
    | advance i a v v' out hi hallows hstep =>
        rcases eq_or_of_update hb with ⟨-, rfl⟩ | hb
        · exact (h.join i v hi).moves (moves_of_step hstep)
        · exact h.join b w hb
    | _ => exact h.join b w hb

/-- **Step lemma.** -/
theorem MemberInv.moves (h : MemberInv s) (hmoves : TeardownMoves s a s' out) : MemberInv s' := by
  cases hmoves with
  | dispatch a d out ha hs hu => exact h.of_dispatch ha hs _
  | release b t hr ht => subst ht; exact h.congr (by simp) (by simp) (by simp)
  | freeInstance hf => exact ⟨h.suffix, fun hf' => (nomatch hf'), h.dispatch, h.slot, h.join⟩
  | destroyBroadcast b ms t hf halive hb ht =>
      have hsuffix := h.suffix
      rw [halive] at hsuffix
      have hfree : MemberInv t := by
        subst ht
        refine ⟨mem_tails_of_cons hsuffix, fun hf' => ?_, fun hm => ?_, fun _ => rfl, h.join⟩
        · have hf' : s.freeing = false := hf'
          rw [hf] at hf'
          cases hf'
        · exact absurd hm (not_mem_of_cons_mem_tails hsuffix)
      exact hfree.congr (by simp) (by simp) (by simp)
  | destroyQueue ms hf halive ht =>
      have hsuffix := h.suffix
      rw [halive] at hsuffix
      -- the slot has been destroyed before
      have hgone : .broadcast ∉ ms := fun hm => not_mem_of_cons_mem_tails hsuffix
        ((mem_of_mem_tails (mem_tails_of_cons hsuffix)).2 hm)
      refine ⟨mem_tails_of_cons hsuffix, fun hf' => ?_, fun hm => absurd hm hgone, fun _ => ?_,
        h.join⟩
      · have hf' : s.freeing = false := hf'
        rw [hf] at hf'
        cases hf'
      · exact h.slot (by simpa [halive] using hgone)
  | destroyMember m ms hf halive hm hb =>
      have hsuffix := h.suffix
      rw [halive] at hsuffix
      refine ⟨mem_tails_of_cons hsuffix, fun hf' => ?_, fun hmem => ?_, fun hmem => ?_, h.join⟩
      · have hf' : s.freeing = false := hf'
        rw [hf] at hf'
        cases hf'
      · exact h.dispatch (by rw [halive]; exact List.mem_cons_of_mem m hmem)
      · by_cases hbm : m = .broadcast
        · exact hb hbm
        · exact h.slot (by simpa [halive, Ne.symm hbm] using hmem)
  | _ => exact h.congr rfl rfl rfl

theorem ReferenceInv.congr {pending : Option ℕ} (h : ReferenceInv pending s)
    (hb : s'.dispatch.broadcasts = s.dispatch.broadcasts)
    (hslot : s'.dispatch.broadcast = s.dispatch.broadcast) (hr : s'.references = s.references)
    (hd : s'.destroyed = s.destroyed) : ReferenceInv pending s' where
  fresh := by
    rw [hb, hd]
    exact h.fresh
  held := by
    rw [hb, hd, hslot, hr]
    exact h.held
  gone := by
    rw [hd, hslot, hr]
    exact h.gone
  reachable := by
    rw [hb, hr]
    exact h.reachable

/-- A broadcast is created in the slot. -/
theorem ReferenceInv.create (h : ReferenceInv none s) (hm : DispatchInv s.dispatch)
    (hslot : s.dispatch.broadcast = none) {d : Dispatch} (w : World)
    (hb : d.broadcasts = Function.update s.dispatch.broadcasts s.dispatch.next (some w))
    (hd : d.broadcast = some s.dispatch.next) : ReferenceInv none { s with dispatch := d } := by
  have hnew := hm.fresh s.dispatch.next le_rfl
  refine ⟨fun b hnone => ?_, fun b _ hsome hdestroyed => ?_, fun b hdestroyed => ?_, fun b hr => ?_⟩
  all_goals simp only [hb, hd] at *
  · have hbn : b ≠ s.dispatch.next := by
      rintro rfl
      simp at hnone
    rw [Function.update_of_ne hbn] at hnone
    exact h.fresh b hnone
  · by_cases hbn : b = s.dispatch.next
    · exact .inl (by rw [hbn])
    · rw [Function.update_of_ne hbn] at hsome
      rcases h.held b (by simp) hsome hdestroyed with hwas | hr
      · rw [hslot] at hwas
        cases hwas
      · exact .inr hr
  · refine ⟨(h.gone b hdestroyed).1, ?_⟩
    rw [ne_eq, Option.some.injEq]
    rintro rfl
    rw [h.fresh _ hnew] at hdestroyed
    cases hdestroyed
  · obtain ⟨v, hv, hreach⟩ := h.reachable b hr
    have hbn : b ≠ s.dispatch.next := by
      rintro rfl
      rw [hnew] at hv
      cases hv
    exact ⟨v, by rw [Function.update_of_ne hbn, hv], hreach⟩

/-- A broadcast takes a step of its own. -/
theorem ReferenceInv.advance (h : ReferenceInv none s) {i : ℕ} {a : Action} {v v' : World}
    {out : List Event} (hi : s.dispatch.broadcasts i = some v) (hs : v.step a = some (v', out)) :
    ReferenceInv none { s with dispatch := s.dispatch.advance i v' out } := by
  have hupdate : ∀ {b w}, s.dispatch.broadcasts b = some w →
      ∃ w', (s.dispatch.advance i v' out).broadcasts b = some w' ∧
        (w.reachable = true → w'.reachable = true) := by
    intro b w hb
    by_cases hbi : b = i
    · subst hbi
      rw [hi, Option.some.injEq] at hb
      exact ⟨v', Function.update_self .., hb ▸ (moves_of_step hs).reachable⟩
    · exact ⟨w, (Function.update_of_ne hbi ..).trans hb, id⟩
  refine ⟨fun b hnone => ?_, fun b _ hsome hdestroyed => ?_, h.gone, fun b hr => ?_⟩
  · apply h.fresh b
    rcases hb : s.dispatch.broadcasts b with _ | w
    · rfl
    · obtain ⟨w', hw', -⟩ := hupdate hb
      have hnone : (s.dispatch.advance i v' out).broadcasts b = none := hnone
      rw [hw'] at hnone
      cases hnone
  · refine h.held b (by simp) ?_ hdestroyed
    by_cases hbi : b = i
    · rw [hbi, hi]
      rfl
    · have hsome : (Function.update s.dispatch.broadcasts i (some v') b).isSome = true := hsome
      rwa [Function.update_of_ne hbi] at hsome
  · obtain ⟨w, hw, hreach⟩ := h.reachable b hr
    obtain ⟨w', hw', hkeep⟩ := hupdate hw
    exact ⟨w', hw', hkeep hreach⟩

/-- The instance hands its reference to the thread it detaches. -/
theorem ReferenceInv.finishEnd (h : ReferenceInv none s) (hmem : MemberInv s) {d : Dispatch}
    {out : List DispatchEvent} (hs : s.dispatch.step .finishEnd = some (d, out)) :
    ReferenceInv none { s with dispatch := d, references := s.referencesAfter .finishEnd } := by
  obtain ⟨i, ender, v, hm, hi, hv, rfl⟩ := Dispatch.finishEnd_cases hs
  rcases hslot : s.dispatch.broadcast with _ | b
  · have hsame : s.referencesAfter .finishEnd = s.references := by
      rw [Teardown.referencesAfter, hslot]
    exact h.congr rfl hslot.symm hsame rfl
  -- the slot is there, and so holds the broadcast that has been stopped
  have halive : .broadcast ∈ s.alive := by
    by_contra hnot
    rw [hmem.slot hnot] at hslot
    cases hslot
  have hib : i = b := by
    have hi := (hmem.dispatch halive).ending i ender hm
    rw [hslot] at hi
    exact (Option.some.inj hi).symm
  subst hib
  have hafter : s.referencesAfter .finishEnd =
      Function.update s.references i (s.references i + 1) := by
    rw [Teardown.referencesAfter, hslot]
  rw [hafter]
  have hreach : v.reachable = true := (hmem.join i v hi).reachable (by simp [hv])
  refine ⟨h.fresh, fun b _ hsome hdestroyed => .inr ?_, fun b hdestroyed => ⟨?_, by simp⟩,
    fun b hr => ?_⟩
  · show 0 < Function.update s.references i _ b
    by_cases hbi : b = i
    · rw [hbi, Function.update_self]
      exact Nat.succ_pos _
    · rw [Function.update_of_ne hbi]
      rcases h.held b (by simp) hsome hdestroyed with hwas | hr
      · rw [hslot] at hwas
        exact absurd (Option.some.inj hwas).symm hbi
      · exact hr
  · obtain ⟨hnone, hne⟩ := h.gone b hdestroyed
    have hbi : b ≠ i := by
      rintro rfl
      exact hne hslot
    exact (Function.update_of_ne hbi ..).trans hnone
  · by_cases hbi : b = i
    · exact ⟨v, hbi ▸ hi, hreach⟩
    · have hr : 0 < Function.update s.references i (s.references i + 1) b := hr
      rw [Function.update_of_ne hbi] at hr
      exact h.reachable b hr

/-- Another holder lets go of a broadcast. -/
theorem ReferenceInv.release (h : ReferenceInv none s) {b : ℕ} (hr : 0 < s.references b) :
    ReferenceInv (some b)
      { s with references := Function.update s.references b (s.references b - 1) } := by
  refine ⟨h.fresh, fun i hib hsome hd => ?_, fun i hd => ?_, fun i hi => ?_⟩
  · have hib : i ≠ b := by simpa using Ne.symm hib
    apply (h.held i (by simp) hsome hd).imp_right
    intro hi
    show 0 < Function.update s.references b _ i
    rwa [Function.update_of_ne hib]
  · obtain ⟨hnone, hslot⟩ := h.gone i hd
    have hib : i ≠ b := by
      rintro rfl
      omega
    exact ⟨(Function.update_of_ne hib ..).trans hnone, hslot⟩
  · by_cases hib : i = b
    · exact h.reachable i (by rw [hib]; exact hr)
    · have hi : 0 < Function.update s.references b (s.references b - 1) i := hi
      rw [Function.update_of_ne hib] at hi
      exact h.reachable i hi

/-- **Step lemma.** -/
theorem ReferenceInv.moves (h : ReferenceInv none s) (hmem : MemberInv s)
    (hmoves : TeardownMoves s a s' out) : ReferenceInv none s' := by
  cases hmoves with
  | dispatch a d out ha hs hu =>
      by_cases hend : a = .finishEnd
      · subst hend
        exact h.finishEnd hmem hs
      have hsame : s.referencesAfter a = s.references := by
        rw [Teardown.referencesAfter.eq_def]
        split
        · exact absurd rfl hend
        · rfl
      rw [hsame]
      cases dispatchMoves_of_step hs with
      | create title rating gameId hm hslot =>
          have halive : .broadcast ∈ s.alive := by
            refine hmem.mem_of_not_freeing ?_ _
            simpa [Teardown.allows] using ha
          exact h.create (hmem.dispatch halive) hslot (.init title rating gameId) rfl rfl
      | advance i a v v' out hi hallows hstep => exact h.advance hi hstep
      | finishEnd => exact absurd rfl hend
      | finishTask => exact absurd rfl hend
      | _ => exact h.congr rfl rfl rfl rfl
  | acquire b w hd hb hw =>
      refine ⟨h.fresh, fun i _ hsome hdestroyed => ?_, fun i hdestroyed => ?_, fun i hi => ?_⟩
      · apply (h.held i (by simp) hsome hdestroyed).imp_right
        intro hr
        show 0 < Function.update s.references b _ i
        rw [Function.update_apply]
        split_ifs <;> omega
      · obtain ⟨hnone, hslot⟩ := h.gone i hdestroyed
        have hib : i ≠ b := by
          rintro rfl
          rw [hd] at hdestroyed
          cases hdestroyed
        exact ⟨(Function.update_of_ne hib ..).trans hnone, hslot⟩
      · by_cases hib : i = b
        · exact ⟨w, hib ▸ hb, hw⟩
        · have hi : 0 < Function.update s.references b (s.references b + 1) i := hi
          rw [Function.update_of_ne hib] at hi
          exact h.reachable i hi
  | release b t hr ht =>
      obtain ⟨w, hb, -⟩ := h.reachable b hr
      subst ht
      exact (h.release hr).destroyUnreferenced (by rw [hb]; rfl) .otherHolder
  | destroyBroadcast b ms t hf halive hslot ht =>
      have hb := (hmem.dispatch (by rw [halive]; simp)).slot b hslot
      have hpending : ReferenceInv (some b) t := by
        subst ht
        refine ⟨h.fresh, fun i hib hsome hd => .inr ?_, fun i hd => ⟨(h.gone i hd).1, by simp⟩,
          h.reachable⟩
        rcases h.held i (by simp) hsome hd with hwas | hr
        · rw [hslot] at hwas
          exact absurd hwas hib
        · exact hr
      exact hpending.destroyUnreferenced (by rw [ht]; exact hb) .freeInstance
  | _ => exact h.congr rfl rfl rfl rfl

end

/-! ## A tidy end -/

/-- What a tidy end leaves of threads and of tasks. -/
structure TidyInv (s : Teardown) : Prop where
  joined : .broadcast ∉ s.alive → ∀ b w, s.dispatch.broadcasts b = some w →
    s.destroyed b = false → w.joinable = false
  tasks : .broadcastMutex ∉ s.alive → .taskQueue ∈ s.alive →
    s.dispatch.taskQueue = [] ∧ s.dispatch.task.usesMembers = false
  lock : .broadcastMutex ∉ s.alive → ∀ b τ, s.dispatch.broadcastMutex ≠ some (.ending b (.task τ))

section

variable {s s' : Teardown} {a : TeardownAction} {out : List TeardownEvent}

theorem tidyInv_init : TidyInv {} where
  joined h := absurd (by decide) h
  tasks h := absurd (by decide) h
  lock h := absurd (by decide) h

/-- A broadcast outside of the slot has no thread to join. -/
theorem TidyInv.not_joinable (h : TidyInv s) (hmem : MemberInv s) {b : ℕ} {w : World}
    (hb : s.dispatch.broadcasts b = some w) (hslot : s.dispatch.broadcast ≠ some b)
    (hd : s.destroyed b = false) : w.joinable = false := by
  by_cases halive : .broadcast ∈ s.alive
  · exact not_joinable_of_returned ((hmem.dispatch halive).stopped b w hb hslot)
  · exact h.joined halive b w hb hd

theorem MemberInv.lost_eq_nil (h : MemberInv s) (hlock : .broadcastMutex ∈ s.alive) :
    s.lost = [] := by
  have hslot := (mem_of_mem_tails h.suffix).1 hlock
  simp [Teardown.lost, hlock, hslot]

/-- Where the lock has been destroyed, no step is one of a task that uses it. -/
theorem TidyInv.user_eq_none (h : TidyInv s) (hlock : .broadcastMutex ∉ s.alive)
    {a : DispatchAction} (ha : s.allows a = true) : s.dispatch.user a = none := by
  rw [Dispatch.user.eq_def]
  split
  · -- the task that is next
    have hqueue : .taskQueue ∈ s.alive := by simpa [Teardown.allows] using ha
    rw [(h.tasks hlock hqueue).1]
    split
    · rename_i heq
      cases heq
    · rfl
  · -- the task that has found its broadcast
    have hqueue : .taskQueue ∈ s.alive := by simpa [Teardown.allows] using ha
    have htask := (h.tasks hlock hqueue).2
    split
    · rename_i τ hτ
      rw [hτ] at htask
      cases htask
    · rfl
  · -- the task that is in `endBroadcast`
    split
    · rename_i b τ hm
      exact absurd hm (h.lock hlock b τ)
    · rfl
  · rfl

/-- The application makes no call once a member has been destroyed. -/
theorem MemberInv.not_startBroadcast (h : MemberInv s) {m : Member} (hm : m ∉ s.alive)
    {a : DispatchAction} (ha : s.allows a = true) :
    (∀ title rating gameId, a ≠ .startBroadcast title rating gameId) ∧ a ≠ .endBroadcast := by
  have hf := h.freeing_of_not_mem hm
  constructor
  · rintro title rating gameId rfl
    simp [Teardown.allows, hf] at ha
  · rintro rfl
    simp [Teardown.allows, hf] at ha

/-- A step of a broadcast that reports no failure posts no task. -/
theorem newTasks_eq_nil {d : Dispatch} {b : ℕ} {a : Action} {w w' : World} {out : List Event}
    (hb : d.broadcasts b = some w) (hs : w.step a = some (w', out))
    (hquiet : d.reportsFailure b a = false) : d.newTasks b out = [] := by
  have hnone : out.filterMap Event.failure = [] := by
    rw [List.filterMap_eq_nil_iff]
    simpa [Dispatch.reportsFailure, hb, hs] using hquiet
  rw [Dispatch.newTasks, hnone]
  rfl

/-- A step of the instance by itself. -/
theorem TidyInv.of_dispatch (h : TidyInv s) (hmem : MemberInv s) (href : ReferenceInv none s)
    {a : DispatchAction} {d : Dispatch} {out : List DispatchEvent}
    (ht : Tidy s (.dispatch a)) (ha : s.allows a = true)
    (hs : s.dispatch.step a = some (d, out)) (references : ℕ → ℕ) :
    TidyInv { s with dispatch := d, references } := by
  have hmoves := dispatchMoves_of_step hs
  refine ⟨fun hslot b w hb hd => ?_, fun hlock hqueue => ?_, fun hlock b τ => ?_⟩
  · have hb : d.broadcasts b = some w := hb
    cases hmoves with
    | create title rating gameId => exact absurd rfl ((hmem.not_startBroadcast hslot ha).1 _ _ _)
    | advance i a v v' out hi hallows hstep =>
        rcases eq_or_of_update hb with ⟨rfl, rfl⟩ | hb
        · -- the broadcast is outside of the slot, and so has been started
          have hreach : v.reachable = true := by
            rcases href.held b (by simp) (by rw [hi]; rfl) hd with hwas | hr
            · rw [hmem.slot hslot] at hwas
              cases hwas
            · obtain ⟨u, hu, hreach⟩ := href.reachable b hr
              rw [hi, Option.some.injEq] at hu
              rwa [hu]
          exact (moves_of_step hstep).joinable hreach (h.joined hslot b v hi hd)
        · exact h.joined hslot b w hb hd
    | _ => exact h.joined hslot b w hb hd
  · obtain ⟨hempty, htask⟩ := h.tasks hlock hqueue
    cases hmoves with
    | create title rating gameId => exact absurd rfl ((hmem.not_startBroadcast hlock ha).1 _ _ _)
    | advance i a v v' out hi hallows hstep =>
        have hquiet : s.dispatch.reportsFailure i a = false := by
          have hlock : .broadcastMutex ∉ s.alive := hlock
          have hqueue : .taskQueue ∈ s.alive := hqueue
          simpa [Tidy, Teardown.isTidy, hlock, hqueue] using ht
        refine ⟨?_, htask⟩
        show s.dispatch.taskQueue ++ s.dispatch.newTasks i out = []
        rw [hempty, newTasks_eq_nil hi hstep hquiet]
        rfl
    | finishTask b τ w hm => exact absurd hm (h.lock hlock b τ)
    | find τ rest hidle hq =>
        rw [hempty] at hq
        cases hq
    | skip τ rest hidle hq =>
        rw [hempty] at hq
        cases hq
    | endTask τ b hτ =>
        rw [hτ] at htask
        cases htask
    | endNothing τ hτ => exact ⟨hempty, rfl⟩
    | callTask τ hτ => exact ⟨hempty, rfl⟩
    | _ => exact ⟨hempty, htask⟩
  · cases hmoves with
    | endTask τ' b' hτ =>
        have hqueue : .taskQueue ∈ s.alive := by simpa [Teardown.allows] using ha
        have htask := (h.tasks hlock hqueue).2
        rw [hτ] at htask
        cases htask
    | create => simp
    | finishStart => simp
    | takeToEnd => simp
    | finishEnd => simp
    | finishTask => simp
    | _ => exact h.lock hlock b τ

theorem TidyInv.congr (h : TidyInv s) (hdispatch : s'.dispatch = s.dispatch)
    (halive : s'.alive = s.alive) (hd : ∀ b, s'.destroyed b = false → s.destroyed b = false) :
    TidyInv s' where
  joined := by
    rw [hdispatch, halive]
    exact fun hslot b w hb hb' => h.joined hslot b w hb (hd b hb')
  tasks := by
    rw [hdispatch, halive]
    exact h.tasks
  lock := by
    rw [hdispatch, halive]
    exact h.lock

theorem destroyed_of_destroyUnreferenced (b : ℕ) (destroyer : Destroyer) {i : ℕ}
    (h : (s.destroyUnreferenced b destroyer).1.destroyed i = false) : s.destroyed i = false := by
  unfold Teardown.destroyUnreferenced at h
  split at h
  · have h : Function.update s.destroyed b true i = false := h
    by_cases hib : i = b
    · rw [hib, Function.update_self] at h
      cases h
    · rwa [Function.update_of_ne hib] at h
  · exact h

/-- What is seen of a broadcast that has no thread to join. -/
theorem safe_of_destroyUnreferenced {b : ℕ} {destroyer : Destroyer}
    (hj : s.dispatch.broadcast ≠ some b →
      (s.dispatch.broadcasts b).any World.joinable = false) :
    SafeTeardown (s.destroyUnreferenced b destroyer).2 := by
  unfold Teardown.destroyUnreferenced
  split
  · rename_i hlast
    rw [hj hlast.2]
    exact ⟨fun i d => by simp, fun τ m => by simp⟩
  · exact ⟨fun i d => by simp, fun τ m => by simp⟩

theorem safeTeardown_nil : SafeTeardown [] := ⟨fun _ _ => by simp, fun _ _ => by simp⟩

theorem safeTeardown_map (out : List DispatchEvent) :
    SafeTeardown (out.map .dispatch) :=
  ⟨fun _ _ => by simp, fun _ _ => by simp⟩

/-- The broadcast in the slot is destroyed without a thread to join. -/
theorem Tidy.not_joinable {b : ℕ} {ms : List Member} (ht : Tidy s .destroyMember)
    (halive : s.alive = .broadcast :: ms) (hslot : s.dispatch.broadcast = some b) :
    (s.dispatch.broadcasts b).any World.joinable = false := by
  simpa [Tidy, Teardown.isTidy, halive, hslot] using ht

/-- The lock is destroyed with no task left to use it. -/
theorem Tidy.tasks {ms : List Member} (ht : Tidy s .destroyMember)
    (halive : s.alive = .broadcastMutex :: ms) :
    s.dispatch.taskQueue = [] ∧ s.dispatch.task.usesMembers = false := by
  simpa [Tidy, Teardown.isTidy, halive] using ht

/-- The destructor of a member other than the slot with a broadcast in it, or the queue. -/
theorem TidyInv.destroyMember (h : TidyInv s) (hmem : MemberInv s) {m : Member}
    {ms : List Member} (ht : Tidy s .destroyMember) (halive : s.alive = m :: ms)
    (hb : m = .broadcast → s.dispatch.broadcast = none) : TidyInv { s with alive := ms } := by
  have hnot : ∀ {m'}, m' ≠ m → m' ∉ ms → m' ∉ s.alive := by
    intro m' hne hms
    simp [halive, hne, hms]
  refine ⟨fun hslot b w hw hd => ?_, fun hlock hqueue => ?_, fun hlock b τ => ?_⟩
  · by_cases hm : m = .broadcast
    · exact h.not_joinable hmem hw (by rw [hb hm]; simp) hd
    · exact h.joined (hnot (Ne.symm hm) hslot) b w hw hd
  · by_cases hm : m = .broadcastMutex
    · subst hm
      exact ht.tasks halive
    · exact h.tasks (hnot (Ne.symm hm) hlock) (by rw [halive]; exact List.mem_cons_of_mem m hqueue)
  · by_cases hm : m = .broadcastMutex
    · -- a task that holds the lock is in `endBroadcast`
      subst hm
      intro hheld
      have hslot : .broadcast ∈ s.alive := (mem_of_mem_tails hmem.suffix).1 (by simp [halive])
      have htask := (ht.tasks halive).2
      rw [(hmem.dispatch hslot).held b τ hheld] at htask
      cases htask
    · exact h.lock (hnot (Ne.symm hm) hlock) b τ

/-- **Step lemma.** -/
theorem TidyInv.moves (h : TidyInv s) (hmem : MemberInv s) (href : ReferenceInv none s)
    (ht : Tidy s a) (hmoves : TeardownMoves s a s' out) : TidyInv s' ∧ SafeTeardown out := by
  cases hmoves with
  | dispatch a d out ha hs hu =>
      exact ⟨h.of_dispatch hmem href ht ha hs _, safeTeardown_map out⟩
  | useDestroyed a τ ha hu hlost =>
      have hlock : .broadcastMutex ∉ s.alive := fun hlock => hlost (hmem.lost_eq_nil hlock)
      rw [h.user_eq_none hlock ha] at hu
      cases hu
  | acquire b w hd hb hw => exact ⟨h.congr rfl rfl fun _ => id, safeTeardown_nil⟩
  | release b t hr ht' =>
      have htidy : TidyInv t := by
        subst ht'
        exact h.congr rfl rfl fun _ => id
      refine ⟨htidy.congr (by simp) (by simp) fun i hi => destroyed_of_destroyUnreferenced b _ hi,
        safe_of_destroyUnreferenced fun hslot => ?_⟩
      subst ht'
      obtain ⟨w, hb, -⟩ := href.reachable b hr
      have hd : s.destroyed b = false := by
        by_contra hd
        have hnone := (href.gone b (by simpa using hd)).1
        omega
      simpa [hb] using h.not_joinable hmem hb hslot hd
  | freeInstance hf => exact ⟨h.congr rfl rfl fun _ => id, safeTeardown_nil⟩
  | destroyBroadcast b ms t hf halive hslot ht' =>
      have hj := ht.not_joinable halive hslot
      have hnot : ∀ {m}, m ≠ .broadcast → m ∉ ms → m ∉ s.alive := by
        intro m hne hms
        simp [halive, hne, hms]
      have htidy : TidyInv t := by
        subst ht'
        refine ⟨fun _ i w hi hd => ?_, fun hlock hqueue => ?_, fun hlock => ?_⟩
        · have hi : s.dispatch.broadcasts i = some w := hi
          by_cases hib : i = b
          · rw [hib] at hi
            simpa [hi] using hj
          · exact h.not_joinable hmem hi (by rw [hslot]; simpa using Ne.symm hib) hd
        · exact h.tasks (hnot (by simp) hlock) (by rw [halive]; exact List.mem_cons_of_mem _ hqueue)
        · exact h.lock (hnot (by simp) hlock)
      refine ⟨htidy.congr (by simp) (by simp) fun i hi => destroyed_of_destroyUnreferenced b _ hi,
        safe_of_destroyUnreferenced fun _ => ?_⟩
      rw [ht']
      exact hj
  | destroyQueue ms hf halive hidle =>
      have hsuffix := hmem.suffix
      rw [halive] at hsuffix
      have hnot : ∀ {m}, m ≠ .taskQueue → m ∉ ms → m ∉ s.alive := by
        intro m hne hms
        simp [halive, hne, hms]
      refine ⟨⟨fun hslot => ?_, fun _ hqueue => ?_, fun hlock => ?_⟩, safeTeardown_nil⟩
      · exact h.joined (hnot (by simp) hslot)
      · exact absurd hqueue (not_mem_of_cons_mem_tails hsuffix)
      · exact h.lock (hnot (by simp) hlock)
  | destroyMember m ms hf halive hm hb =>
      exact ⟨h.destroyMember hmem ht halive hb, safeTeardown_nil⟩

theorem SafeTeardown.append {es es' : List TeardownEvent} (h : SafeTeardown es)
    (h' : SafeTeardown es') : SafeTeardown (es ++ es') where
  joined b destroyer hmem := by
    rcases List.mem_append.mp hmem with hmem | hmem
    · exact h.joined b destroyer hmem
    · exact h'.joined b destroyer hmem
  used τ m hmem := by
    rcases List.mem_append.mp hmem with hmem | hmem
    · exact h.used τ m hmem
    · exact h'.used τ m hmem

end

/-! ## Every run -/

section

variable {tr : List (Teardown × TeardownAction)} {es : List TeardownEvent} {s : Teardown}

/-- **Run lemma.** -/
theorem TeardownRuns.inv (h : TeardownRuns tr es s) : MemberInv s ∧ ReferenceInv none s :=
  Machine.Run.invariant (I := fun s => MemberInv s ∧ ReferenceInv none s)
    ⟨memberInv_init, referenceInv_init⟩
    (fun _ _ _ _ hi hs =>
      have hmoves := (teardownMoves_of_step hs).2
      ⟨hi.1.moves hmoves, hi.2.moves hi.1 hmoves⟩) h

/-- **Teardown.**  In a run that is tidy no broadcast is destroyed with a thread to join, by
whomever, and no failure task uses the lock or the slot once they have been destroyed. -/
theorem safeTeardown_of_tidy (h : TeardownRuns tr es s) (ht : Machine.Meets Tidy tr) :
    SafeTeardown es := by
  refine (Machine.Run.induction_on_steps (C := Tidy)
    (I := fun es s => (MemberInv s ∧ ReferenceInv none s) ∧ TidyInv s ∧ SafeTeardown es)
    ⟨⟨memberInv_init, referenceInv_init⟩, tidyInv_init, safeTeardown_nil⟩ ?_ h ht).2.2
  rintro es s a s' out ⟨⟨hmem, href⟩, htidy, hsafe⟩ hstep hs
  have hmoves := (teardownMoves_of_step hs).2
  obtain ⟨htidy', hout⟩ := htidy.moves hmem href hstep hmoves
  exact ⟨⟨hmem.moves hmoves, href.moves hmem hmoves⟩, htidy', hsafe.append hout⟩

end

/-! ## Untidy steps -/

section

variable {tr : List (Teardown × TeardownAction)} {es out : List TeardownEvent}
  {s s' : Teardown} {a : TeardownAction}

/-- A task of the queue uses the lock that has been destroyed. -/
theorem run_of_user (hended : s.ended = false) (hlock : .broadcastMutex ∉ s.alive)
    {a : DispatchAction} {τ : Task} (ha : s.allows a = true) (hu : s.dispatch.user a = some τ) :
    ∃ tr es s', teardownMachine.Run s tr es s' ∧ ∃ τ m, .usedDestroyed τ m ∈ es := by
  obtain ⟨ms, hlost⟩ : ∃ ms, s.lost = .broadcastMutex :: ms := by
    simp [Teardown.lost, List.filter_cons, hlock]
  have hstep : s.step (.dispatch a) = some ({ s with ended := true },
      (Member.broadcastMutex :: ms).map (.usedDestroyed τ)) := by
    simp [Teardown.step, hended, ha, Teardown.dispatchStep, hu, hlost]
  have hrun : teardownMachine.Run s [(s, .dispatch a)] _ _ := .single hstep
  exact ⟨_, _, _, hrun, τ, .broadcastMutex, by simp⟩

/-- A task that is left when the lock has been destroyed comes to use it. -/
theorem exists_use (hended : s.ended = false) (hlock : .broadcastMutex ∉ s.alive)
    (hqueue : .taskQueue ∈ s.alive)
    (hleft : s.dispatch.taskQueue ≠ [] ∨ s.dispatch.task.usesMembers = true)
    (hnot : ∀ τ, s.dispatch.task ≠ .ending τ) :
    ∃ tr es s', teardownMachine.Run s tr es s' ∧ ∃ τ m, .usedDestroyed τ m ∈ es := by
  rcases htask : s.dispatch.task with _ | τ | τ | τ
  · -- the next task looks for its broadcast
    rcases hq : s.dispatch.taskQueue with _ | ⟨τ, rest⟩
    · simp [hq, htask, TaskState.usesMembers] at hleft
    · have hu : s.dispatch.user .checkTask = some τ := by simp only [Dispatch.user, htask, hq]
      exact run_of_user hended hlock (by simpa [Teardown.allows] using hqueue) hu
  · have hu : s.dispatch.user .endTask = some τ := by simp only [Dispatch.user, htask]
    exact run_of_user hended hlock (by simpa [Teardown.allows] using hqueue) hu
  · exact absurd htask (hnot τ)
  · -- the next task comes after the callback of this one
    rcases hq : s.dispatch.taskQueue with _ | ⟨τ', rest⟩
    · simp [hq, htask, TaskState.usesMembers] at hleft
    obtain ⟨t, ht⟩ : ∃ t : Teardown, t = { s with dispatch := { s.dispatch with task := .idle } } :=
      ⟨_, rfl⟩
    have hcall : s.step (.dispatch .callTask) = some (t, [.dispatch (.failedCallback τ)]) := by
      simp [ht, Teardown.step, hended, hqueue, Teardown.allows, Teardown.dispatchStep,
        Dispatch.user, Dispatch.step, htask, Teardown.referencesAfter]
    have hu : t.dispatch.user .checkTask = some τ' := by
      simp only [ht, Dispatch.user, hq]
    have hrun : teardownMachine.Run s [(s, .dispatch .callTask)] _ t := .single hcall
    obtain ⟨tr, es, s', hrun', τ'', m, hmem⟩ :=
      run_of_user (by rw [ht]; exact hended) (by rw [ht]; exact hlock)
        (by simpa [ht, Teardown.allows] using hqueue) hu
    exact ⟨_, _, s', hrun.trans hrun', τ'', m, by simp [hmem]⟩

/-- A broadcast with a thread to join that has lost its instance is destroyed when its last
holder lets go of it. -/
theorem exists_destroyed {b n : ℕ} (hended : s.ended = false) (hr : s.references b = n + 1)
    (hslot : s.dispatch.broadcast = none)
    (hj : (s.dispatch.broadcasts b).any World.joinable = true) :
    ∃ tr es s', teardownMachine.Run s tr es s' ∧ .destroyed b .otherHolder true ∈ es := by
  induction n generalizing s with
  | zero =>
      obtain ⟨t, hstep⟩ : ∃ t,
          s.step (.release b) = some (t, [.destroyed b .otherHolder true]) := by
        simp [Teardown.step, hended, hr, Teardown.destroyUnreferenced, hslot, hj]
      have hrun : teardownMachine.Run s [(s, .release b)] _ t := .single hstep
      exact ⟨_, _, t, hrun, by simp⟩
  | succ n ih =>
      have hstep : s.step (.release b) =
          some ({ s with references := Function.update s.references b (n + 1) }, []) := by
        simp [Teardown.step, hended, hr, Teardown.destroyUnreferenced]
      have hrun : teardownMachine.Run s [(s, .release b)] _ _ := .single hstep
      obtain ⟨tr, es, s', hrun', hmem⟩ :=
        ih (s := { s with references := Function.update s.references b (n + 1) }) hended
          (Function.update_self ..) hslot hj
      exact ⟨_, _, s', hrun.trans hrun', by simp [hmem]⟩

/-- The failure a broadcast reports is posted. -/
theorem taskQueue_ne_nil_of_reportsFailure {d d' : Dispatch} {b : ℕ} {a : Action}
    {out : List DispatchEvent} (hs : d.step (.broadcast b a) = some (d', out))
    (hreports : d.reportsFailure b a = true) : d'.taskQueue ≠ [] := by
  rw [Dispatch.step] at hs
  split at hs
  · rename_i w hb
    split at hs
    · split at hs
      · rename_i w' out' hstep
        rw [Option.some.injEq, Prod.mk.injEq] at hs
        have hfailure : ∃ e ∈ out', e.failure.isSome = true := by
          simpa [Dispatch.reportsFailure, hb, hstep] using hreports
        obtain ⟨e, he, hsome⟩ := hfailure
        have hposted : (out'.filterMap Event.failure) ≠ [] := by
          rw [ne_eq, List.filterMap_eq_nil_iff]
          intro hnone
          rw [hnone e he] at hsome
          cases hsome
        rw [← hs.1]
        simp [Dispatch.advance, Dispatch.newTasks, hposted]
      · cases hs
    · cases hs
  · cases hs

theorem task_eq_of_broadcast {d d' : Dispatch} {b : ℕ} {a : Action} {out : List DispatchEvent}
    (hs : d.step (.broadcast b a) = some (d', out)) : d'.task = d.task := by
  cases dispatchMoves_of_step hs with
  | advance => rfl
  | stay => rfl

/-- **An untidy step is a defect.**  After a step that is not tidy a broadcast may be destroyed
with a thread to join, or a task use what has been destroyed; the case is left out in which the
lock is taken away from a task that is in `endBroadcast`. -/
theorem TeardownRuns.exists_unsafe (h : TeardownRuns tr es s) (hs : s.step a = some (s', out))
    (ha : ¬ Tidy s a) (hnot : ∀ τ, s.dispatch.task ≠ .ending τ) :
    ∃ tr' es' s'', teardownMachine.Run s' tr' es' s'' ∧ ¬ SafeTeardown (out ++ es') := by
  obtain ⟨hmem, -⟩ := h.inv
  obtain ⟨hended, hmoves⟩ := teardownMoves_of_step hs
  have of_use : ∀ {t : Teardown} {out' : List TeardownEvent},
      (∃ tr' es' s'', teardownMachine.Run t tr' es' s'' ∧ ∃ τ m, .usedDestroyed τ m ∈ es') →
      ∃ tr' es' s'', teardownMachine.Run t tr' es' s'' ∧ ¬ SafeTeardown (out' ++ es') := by
    rintro t out' ⟨tr', es', s'', hrun, τ, m, hused⟩
    exact ⟨tr', es', s'', hrun, fun hsafe =>
      hsafe.used τ m (List.mem_append_right out' hused)⟩
  cases hmoves with
  | dispatch a d out' hallows hstep hu =>
      cases a with
      | broadcast b a =>
          -- a broadcast reports a failure between the ends of the lock and of the queue
          simp only [Tidy, Teardown.isTidy, Bool.or_eq_true, decide_eq_true_eq, not_or,
            Bool.not_eq_false, not_not, Bool.not_eq_eq_eq_not, Bool.not_true] at ha
          obtain ⟨⟨hlock, hqueue⟩, hreports⟩ := ha
          refine of_use (exists_use hended hlock hqueue (.inl ?_) ?_)
          · exact taskQueue_ne_nil_of_reportsFailure hstep hreports
          · rwa [task_eq_of_broadcast hstep]
      | _ => exact absurd rfl ha
  | useDestroyed a τ hallows hu hlost =>
      obtain ⟨m, ms, hlost⟩ := List.exists_cons_of_ne_nil hlost
      refine ⟨[], [], _, .refl _, fun hsafe => hsafe.used τ m ?_⟩
      simp [hlost]
  | acquire b w hd hb hw => exact absurd rfl ha
  | release b t hr ht => exact absurd rfl ha
  | freeInstance hf => exact absurd rfl ha
  | destroyBroadcast b ms t hf halive hslot ht =>
      have hj : (s.dispatch.broadcasts b).any World.joinable = true := by
        simpa [Tidy, Teardown.isTidy, halive, hslot] using ha
      rcases hr : s.references b with _ | n
      · refine ⟨[], [], _, .refl _, fun hsafe => hsafe.joined b .freeInstance ?_⟩
        simp [ht, Teardown.destroyUnreferenced, hr, hj]
      · -- another holder has the last reference
        have hsame : t.destroyUnreferenced b .freeInstance = (t, []) := by
          simp [ht, Teardown.destroyUnreferenced, hr]
        obtain ⟨tr', es', s'', hrun, hdestroyed⟩ :=
          exists_destroyed (s := t) (b := b) (n := n) (by rw [ht]; exact hended)
            (by rw [ht]; exact hr) (by rw [ht]) (by rw [ht]; exact hj)
        rw [hsame]
        exact ⟨tr', es', s'', hrun, fun hsafe => hsafe.joined b .otherHolder hdestroyed⟩
  | destroyQueue ms hf halive hidle =>
      rw [Tidy, Teardown.isTidy, halive] at ha
      exact absurd rfl ha
  | destroyMember m ms hf halive hm hb =>
      have hsuffix := hmem.suffix
      rw [halive] at hsuffix
      cases m with
      | broadcastMutex =>
          -- a task is left when the lock is destroyed
          have hqueue : .taskQueue ∈ ms := by
            have horder := mem_of_mem_tails hmem.suffix
            simpa [halive] using horder.2 (horder.1 (by simp [halive]))
          refine of_use (exists_use hended (not_mem_of_cons_mem_tails hsuffix) hqueue ?_ hnot)
          simp only [Tidy, Teardown.isTidy, halive, Bool.and_eq_true, not_and_or] at ha
          simpa using ha
      | broadcast =>
          rw [Tidy, Teardown.isTidy, halive] at ha
          exact absurd (by simp [hb rfl]) ha
      | _ =>
          rw [Tidy, Teardown.isTidy, halive] at ha
          exact absurd rfl ha

end

/-! ## An instance freed late and early -/

/-- The steps of an instance that is freed when its broadcast has failed, and the task of the
failure is through. -/
def freeLateActions : List TeardownAction :=
  (failActions ++ endTaskActions 0).map .dispatch ++ [.release 0, .freeInstance] ++
    List.replicate 12 .destroyMember

theorem safeTeardown_of_tidy_freeLate :
    ∃ tr es s, TeardownRuns tr es s ∧ tr.map Prod.snd = freeLateActions ∧ s.alive = [] ∧
      .destroyed 0 .otherHolder false ∈ es ∧ SafeTeardown es := by
  obtain ⟨s, es, hexec, halive, hes⟩ : ∃ s es,
      teardownMachine.exec {} freeLateActions = some (s, es) ∧ s.alive = [] ∧
      .destroyed 0 .otherHolder false ∈ es :=
    ⟨_, _, rfl, rfl, by decide⟩
  have hrun := Machine.Run.of_exec hexec
  have htidy : Machine.Meets Tidy (teardownMachine.trace {} freeLateActions) := by decide
  exact ⟨_, es, s, hrun, Machine.map_snd_trace hexec, halive, hes, safeTeardown_of_tidy hrun htidy⟩

/-- The steps of an instance that is freed while its broadcast is starting. -/
def freeStartingActions : List TeardownAction :=
  (createActions 0).map .dispatch ++ .freeInstance :: List.replicate 5 .destroyMember

/-- The steps of an instance that is freed when its broadcast has failed, and the task of the
failure is still in the queue. -/
def freeFailedActions : List TeardownAction :=
  (createActions 0 ++ offerFails 0).map .dispatch ++
    .freeInstance :: List.replicate 4 .destroyMember ++ [.dispatch .checkTask]

/-- The broadcast is destroyed with its thread, and the task locks a destroyed lock. -/
theorem not_safeTeardown_freeEarly :
    (¬ ∀ tr es s, TeardownRuns tr es s → ∀ b, .destroyed b .freeInstance true ∉ es) ∧
      ¬ ∀ tr es s, TeardownRuns tr es s → ∀ τ m, .usedDestroyed τ m ∉ es := by
  constructor
  · obtain ⟨s, es, hexec, hes⟩ : ∃ s es,
        teardownMachine.exec {} freeStartingActions = some (s, es) ∧
        .destroyed 0 .freeInstance true ∈ es :=
      ⟨_, _, rfl, by decide⟩
    intro hall
    exact hall _ es s (.of_exec hexec) 0 hes
  · obtain ⟨s, es, hexec, hes⟩ : ∃ s es,
        teardownMachine.exec {} freeFailedActions = some (s, es) ∧
        .usedDestroyed ⟨0, 0, .failure⟩ .broadcastMutex ∈ es :=
      ⟨_, _, rfl, by decide⟩
    intro hall
    exact hall _ es s (.of_exec hexec) ⟨0, 0, .failure⟩ .broadcastMutex hes

end Caff
