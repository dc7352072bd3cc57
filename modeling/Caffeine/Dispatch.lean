/-
# Broadcasts, the lock and the task queue

`Instance::startBroadcast` and `Instance::endBroadcast` hold `broadcastMutex`, the
first while it starts a new broadcast, the second while it stops the one there is.
A failure of a broadcast posts a task to a serial queue.  The task looks, under the
lock, whether its broadcast is still there, lets go of the lock, calls
`endBroadcast` and then `failedCallback`.

A broadcast is named by a number, which stands for its client id.  Once a broadcast
can be got at, calls on it may go on for as long as they like: `getBroadcast` hands
out a shared pointer.  The checks `startBroadcast` makes before it takes the lock
are in `Instance.lean`.
-/
import Caffeine.BroadcastRegions

namespace Caff

open Machine (holds_of_some holds_of_guard)

/-! ## The instance and its broadcasts -/

/-- A posted failure task: its number, the broadcast that failed, and why. -/
structure Task where
  number : ℕ
  broadcast : ℕ
  error : Result
  deriving DecidableEq, Repr

/-- Who calls `endBroadcast`. -/
inductive Ender
  | application
  | task (τ : Task)
  deriving DecidableEq, Repr

/-- Who holds `broadcastMutex` for longer than a step. -/
inductive Holder
  | starting (b : ℕ)
  | ending (b : ℕ) (ender : Ender)
  deriving DecidableEq, Repr

/-- Where the task queue is: between tasks, or in a task that has found its broadcast,
that is in `endBroadcast`, or that is about to call `failedCallback`. -/
inductive TaskState
  | idle
  | found (τ : Task)
  | ending (τ : Task)
  | calling (τ : Task)
  deriving DecidableEq, Repr

/-- The task being worked on. -/
def TaskState.current : TaskState → Option Task
  | .idle => none
  | .found τ | .ending τ | .calling τ => some τ

structure Dispatch where
  broadcasts : ℕ → Option World := fun _ => none
  next : ℕ := 0  -- no broadcast has this number yet, or a greater one
  broadcast : Option ℕ := none
  broadcastMutex : Option Holder := none
  taskQueue : List Task := []
  posted : ℕ := 0
  task : TaskState := .idle

inductive DispatchEvent
  | broadcast (b : ℕ) (e : Event)
  | ended (b : ℕ) (ender : Ender)
  | failedCallback (τ : Task)
  deriving DecidableEq, Repr

inductive DispatchAction
  | startBroadcast (title : Bytes) (rating : Rating) (gameId : Bytes)
  | finishStart
  | broadcast (b : ℕ) (a : Action)
  | endBroadcast
  | finishEnd
  | checkTask
  | endTask
  | callTask
  deriving DecidableEq, Repr

/-- The failure the event reports. -/
def Event.failure : Event → Option Result
  | .failureReported _ error => some error
  | _ => none

namespace Dispatch

/-- A step of broadcast `b` that is not up to its own: `start` runs in `startBroadcast`,
`stop` in `endBroadcast`. -/
def allows (s : Dispatch) (b : ℕ) : Action → Bool
  | .start | .encoderInfo _ => s.broadcastMutex = some (.starting b)
  | .stop =>
      match s.broadcastMutex with
      | some (.ending b' _) => b' = b
      | _ => false
  | _ => true

/-- The tasks for the failures in `out`. -/
def newTasks (s : Dispatch) (b : ℕ) (out : List Event) : List Task :=
  (out.filterMap Event.failure).mapIdx fun i error => ⟨s.posted + i, b, error⟩

/-- Broadcast `b` goes on to `w`, and the failures it has reported are posted. -/
def advance (s : Dispatch) (b : ℕ) (w : World) (out : List Event) : Dispatch :=
  { s with
    broadcasts := Function.update s.broadcasts b (some w)
    taskQueue := s.taskQueue ++ s.newTasks b out
    posted := s.posted + (s.newTasks b out).length }

/-- `startBroadcast` takes the lock. -/
def startBroadcast (s : Dispatch) (title : Bytes) (rating : Rating) (gameId : Bytes) : Dispatch :=
  match s.broadcast with
  | some _ => s
  | none =>
      { s with
        broadcasts := Function.update s.broadcasts s.next (some (.init title rating gameId))
        next := s.next + 1
        broadcast := some s.next
        broadcastMutex := some (.starting s.next) }

/-- `endBroadcast` takes the lock, and goes on to stop the broadcast if there is one. -/
def takeToEnd (s : Dispatch) (ender : Ender) : Dispatch :=
  match s.broadcast with
  | some b => { s with broadcastMutex := some (.ending b ender) }
  | none => s

def step (s : Dispatch) : DispatchAction → Option (Dispatch × List DispatchEvent)
  | .startBroadcast title rating gameId =>
      if s.broadcastMutex = none then some (s.startBroadcast title rating gameId, []) else none
  -- `Broadcast::start` has returned or thrown
  | .finishStart =>
      match s.broadcastMutex with
      | some (.starting b) =>
          if (s.broadcasts b).any World.reachable then some ({ s with broadcastMutex := none }, [])
          else none
      | _ => none
  | .broadcast b a =>
      match s.broadcasts b with
      | some w =>
          if s.allows b a then
            match w.step a with
            | some (w', out) => some (s.advance b w' out, out.map (.broadcast b))
            | none => none
          else none
      | none => none
  | .endBroadcast =>
      if s.broadcastMutex = none then some (s.takeToEnd .application, []) else none
  -- `stop` has returned
  | .finishEnd =>
      match s.broadcastMutex with
      | some (.ending b ender) =>
          if (s.broadcasts b).any (·.stopCall = .returned) then
            some ({ s with
              broadcast := none
              broadcastMutex := none
              task := match ender with
                | .application => s.task
                | .task τ => .calling τ }, [.ended b ender])
          else none
      | _ => none
  -- the next task looks for its broadcast
  | .checkTask =>
      match s.task, s.taskQueue with
      | .idle, τ :: rest =>
          if s.broadcastMutex = none then
            some ({ s with
              taskQueue := rest
              task := if s.broadcast = some τ.broadcast then .found τ else .idle }, [])
          else none
      | _, _ => none
  | .endTask =>
      match s.task with
      | .found τ =>
          if s.broadcastMutex = none then
            match s.broadcast with
            | some _ => some ({ s.takeToEnd (.task τ) with task := .ending τ }, [])
            | none => some ({ s with task := .calling τ }, [])
          else none
      | _ => none
  | .callTask =>
      match s.task with
      | .calling τ => some ({ s with task := .idle }, [.failedCallback τ])
      | _ => none

end Dispatch

/-- The instance as a machine. -/
def dispatchMachine : Machine Dispatch DispatchAction DispatchEvent := ⟨Dispatch.step⟩

/-! ## What one step can do -/

inductive DispatchMoves (s : Dispatch) :
    DispatchAction → Dispatch → List DispatchEvent → Prop
  | create (title : Bytes) (rating : Rating) (gameId : Bytes) (hm : s.broadcastMutex = none)
      (hb : s.broadcast = none) :
      DispatchMoves s (.startBroadcast title rating gameId)
        { s with
          broadcasts := Function.update s.broadcasts s.next (some (.init title rating gameId))
          next := s.next + 1
          broadcast := some s.next
          broadcastMutex := some (.starting s.next) } []
  | finishStart (b : ℕ) (hm : s.broadcastMutex = some (.starting b)) :
      DispatchMoves s .finishStart { s with broadcastMutex := none } []
  | advance (b : ℕ) (a : Action) (w w' : World) (out : List Event) (hb : s.broadcasts b = some w)
      (ha : s.allows b a = true) (hs : w.step a = some (w', out)) :
      DispatchMoves s (.broadcast b a) (s.advance b w' out) (out.map (.broadcast b))
  | takeToEnd (b : ℕ) (hm : s.broadcastMutex = none) (hb : s.broadcast = some b) :
      DispatchMoves s .endBroadcast { s with broadcastMutex := some (.ending b .application) } []
  | finishEnd (b : ℕ) (w : World) (hm : s.broadcastMutex = some (.ending b .application))
      (hb : s.broadcasts b = some w) (hw : w.stopCall = .returned) :
      DispatchMoves s .finishEnd { s with broadcast := none, broadcastMutex := none }
        [.ended b .application]
  | finishTask (b : ℕ) (τ : Task) (w : World)
      (hm : s.broadcastMutex = some (.ending b (.task τ))) (hb : s.broadcasts b = some w)
      (hw : w.stopCall = .returned) :
      DispatchMoves s .finishEnd
        { s with broadcast := none, broadcastMutex := none, task := .calling τ }
        [.ended b (.task τ)]
  | find (τ : Task) (rest : List Task) (ht : s.task = .idle) (hq : s.taskQueue = τ :: rest)
      (hm : s.broadcastMutex = none) (hb : s.broadcast = some τ.broadcast) :
      DispatchMoves s .checkTask { s with taskQueue := rest, task := .found τ } []
  | skip (τ : Task) (rest : List Task) (ht : s.task = .idle) (hq : s.taskQueue = τ :: rest) :
      DispatchMoves s .checkTask { s with taskQueue := rest } []
  | endTask (τ : Task) (b : ℕ) (ht : s.task = .found τ) (hm : s.broadcastMutex = none)
      (hb : s.broadcast = some b) :
      DispatchMoves s .endTask
        { s with broadcastMutex := some (.ending b (.task τ)), task := .ending τ } []
  | endNothing (τ : Task) (ht : s.task = .found τ) (hm : s.broadcastMutex = none)
      (hb : s.broadcast = none) :
      DispatchMoves s .endTask { s with task := .calling τ } []
  | callTask (τ : Task) (ht : s.task = .calling τ) :
      DispatchMoves s .callTask { s with task := .idle } [.failedCallback τ]
  | stay (a : DispatchAction) : DispatchMoves s a s []

section

variable {s s' : Dispatch} {a : DispatchAction} {out : List DispatchEvent}

/-- **Inversion of a step.** -/
theorem dispatchMoves_of_step (h : s.step a = some (s', out)) : DispatchMoves s a s' out := by
  cases a with
  | startBroadcast title rating gameId =>
      apply holds_of_guard h
      intro hm
      rw [Dispatch.startBroadcast.eq_def]
      split
      · exact .stay _
      · rename_i hb
        exact .create title rating gameId hm hb
  | finishStart =>
      rw [Dispatch.step] at h
      split at h
      · rename_i b hm
        exact holds_of_guard h fun _ => .finishStart b hm
      · cases h
  | broadcast b a =>
      rw [Dispatch.step] at h
      split at h
      · rename_i w hb
        split at h
        · rename_i ha
          split at h
          · rename_i w' out' hs
            exact holds_of_some h (.advance b a w w' out' hb ha hs)
          · cases h
        · cases h
      · cases h
  | endBroadcast =>
      apply holds_of_guard h
      intro hm
      rw [Dispatch.takeToEnd.eq_def]
      split
      · rename_i b hb
        exact .takeToEnd b hm hb
      · exact .stay _
  | finishEnd =>
      rw [Dispatch.step] at h
      split at h
      · rename_i b ender hm
        apply holds_of_guard h
        intro hw
        rcases hb : s.broadcasts b with _ | w
        · rw [hb] at hw
          cases hw
        · rw [hb, Option.any_some, decide_eq_true_eq] at hw
          rcases ender with _ | τ
          · exact .finishEnd b w hm hb hw
          · exact .finishTask b τ w hm hb hw
      · cases h
  | checkTask =>
      rw [Dispatch.step] at h
      split at h
      · rename_i τ rest ht hq
        apply holds_of_guard h
        intro hm
        by_cases hb : s.broadcast = some τ.broadcast
        · rw [if_pos hb]
          exact .find τ rest ht hq hm hb
        · rw [if_neg hb]
          have hskip := DispatchMoves.skip τ rest ht hq
          rwa [← ht]
      · cases h
  | endTask =>
      rw [Dispatch.step] at h
      split at h
      · rename_i τ ht
        split at h
        · rename_i hm
          split at h
          · rename_i b hb
            have htake : s.takeToEnd (.task τ) =
                { s with broadcastMutex := some (.ending b (.task τ)) } := by
              rw [Dispatch.takeToEnd, hb]
            rw [htake] at h
            exact holds_of_some h (.endTask τ b ht hm hb)
          · rename_i hb
            exact holds_of_some h (.endNothing τ ht hm hb)
        · cases h
      · cases h
  | callTask =>
      rw [Dispatch.step] at h
      split at h
      · rename_i τ ht
        exact holds_of_some h (.callTask τ ht)
      · cases h

end

/-! ## The invariant -/

/-- The lock, the slot, the broadcasts and the tasks fit together. -/
structure DispatchInv (s : Dispatch) : Prop where
  fresh : ∀ b, s.next ≤ b → s.broadcasts b = none
  slot : ∀ b, s.broadcast = some b → (s.broadcasts b).isSome = true
  /-- Who starts or ends a broadcast has it in the slot. -/
  starting : ∀ b, s.broadcastMutex = some (.starting b) → s.broadcast = some b
  ending : ∀ b ender, s.broadcastMutex = some (.ending b ender) → s.broadcast = some b
  /-- A broadcast that has left the slot has been stopped. -/
  stopped : ∀ b w, s.broadcasts b = some w → s.broadcast ≠ some b → w.stopCall = .returned
  queued : ∀ τ ∈ s.taskQueue, (s.broadcasts τ.broadcast).isSome = true
  found : ∀ τ, s.task = .found τ → (s.broadcasts τ.broadcast).isSome = true
  holds : ∀ τ, s.task = .ending τ → (s.broadcasts τ.broadcast).isSome = true ∧
    ∃ b, s.broadcastMutex = some (.ending b (.task τ))
  held : ∀ b τ, s.broadcastMutex = some (.ending b (.task τ)) → s.task = .ending τ
  /-- When the callback is called, the broadcast of the task has left the slot. -/
  calling : ∀ τ, s.task = .calling τ →
    (s.broadcasts τ.broadcast).isSome = true ∧ s.broadcast ≠ some τ.broadcast

section

variable {s s' : Dispatch} {a : DispatchAction} {out : List DispatchEvent}

theorem dispatchInv_init : DispatchInv {} where
  fresh _ _ := rfl
  slot _ h := by cases h
  starting _ h := by cases h
  ending _ _ h := by cases h
  stopped _ _ h := by cases h
  queued _ h := by cases h
  found _ h := by cases h
  holds _ h := by cases h
  held _ _ h := by cases h
  calling _ h := by cases h

theorem isSome_update_broadcasts {b : ℕ} (hb : (s.broadcasts b).isSome = true) (i : ℕ) (w : World) :
    (Function.update s.broadcasts i (some w) b).isSome = true := by
  rw [Function.update_apply]
  split_ifs
  · rfl
  · exact hb

/-- A broadcast that is there stays there. -/
theorem DispatchMoves.isSome_broadcasts (h : DispatchMoves s a s' out) {b : ℕ}
    (hb : (s.broadcasts b).isSome = true) : (s'.broadcasts b).isSome = true := by
  cases h with
  | create title rating gameId hm hb' => exact isSome_update_broadcasts hb _ _
  | advance i a w w' out hi ha hs => exact isSome_update_broadcasts hb _ _
  | _ => exact hb

theorem broadcast_of_mem_newTasks {b : ℕ} {out : List Event} {τ : Task}
    (h : τ ∈ s.newTasks b out) : τ.broadcast = b := by
  rw [Dispatch.newTasks, List.mem_mapIdx] at h
  obtain ⟨i, hi, rfl⟩ := h
  rfl

/-- `stop` steps only with the broadcast in the slot. -/
theorem DispatchInv.slot_of_allows_stop (h : DispatchInv s) {b : ℕ}
    (ha : s.allows b .stop = true) : s.broadcast = some b := by
  rw [Dispatch.allows] at ha
  split at ha
  · rename_i b' ender hm
    rw [decide_eq_true_eq] at ha
    exact ha ▸ h.ending b' ender hm
  · cases ha

/-- No task is in `endBroadcast` while the lock is not held for one. -/
theorem DispatchInv.task_ne_ending (h : DispatchInv s)
    (hm : ∀ b τ, s.broadcastMutex ≠ some (.ending b (.task τ))) (τ : Task) :
    s.task ≠ .ending τ := by
  intro hτ
  obtain ⟨-, b, hb⟩ := h.holds τ hτ
  exact hm b τ hb

/-- Once `stop` has returned in the slot, every broadcast has been stopped. -/
theorem DispatchInv.stopCall_of_slot (h : DispatchInv s) {b i : ℕ} {w v : World}
    (hslot : s.broadcast = some b) (hb : s.broadcasts b = some w) (hw : w.stopCall = .returned)
    (hv : s.broadcasts i = some v) : v.stopCall = .returned := by
  by_cases hib : i = b
  · rw [hib, hb] at hv
    rw [← Option.some.inj hv]
    exact hw
  · exact h.stopped i v hv (by rw [hslot]; simpa using Ne.symm hib)

/-- A broadcast is created under the next number. -/
theorem DispatchInv.create (h : DispatchInv s) (hm : s.broadcastMutex = none)
    (hb : s.broadcast = none) (w : World) :
    DispatchInv { s with
      broadcasts := Function.update s.broadcasts s.next (some w)
      next := s.next + 1
      broadcast := some s.next
      broadcastMutex := some (.starting s.next) } := by
  have hne : ∀ b, (s.broadcasts b).isSome = true → b ≠ s.next := by
    rintro b hsome rfl
    rw [h.fresh s.next le_rfl] at hsome
    cases hsome
  have hnot := h.task_ne_ending (by simp [hm])
  refine ⟨fun b hle => ?_, fun b hslot => ?_, fun b hst => ?_, fun b ender hend => (nomatch hend),
    fun b v hv hslot => ?_, fun τ hτ => isSome_update_broadcasts (h.queued τ hτ) _ _,
    fun τ hτ => isSome_update_broadcasts (h.found τ hτ) _ _, fun τ hτ => absurd hτ (hnot τ),
    fun b τ hheld => (nomatch hheld), fun τ hτ => ?_⟩
  · have hle : s.next + 1 ≤ b := hle
    show Function.update s.broadcasts s.next _ b = none
    rw [Function.update_of_ne (by omega)]
    exact h.fresh b (by omega)
  · have hslot : s.next = b := Option.some.inj hslot
    show (Function.update s.broadcasts s.next _ b).isSome = true
    rw [← hslot, Function.update_self]
    rfl
  · exact congrArg some (Holder.starting.inj (Option.some.inj hst))
  · have hslot : some s.next ≠ some b := hslot
    have hbn : b ≠ s.next := fun hbn => hslot (by rw [hbn])
    have hv : Function.update s.broadcasts s.next _ b = some v := hv
    rw [Function.update_of_ne hbn] at hv
    exact h.stopped b v hv (by rw [hb]; simp)
  · -- a task in its callback is about an older broadcast
    obtain ⟨hsome, -⟩ := h.calling τ hτ
    refine ⟨isSome_update_broadcasts hsome _ _, fun hslot => ?_⟩
    exact hne τ.broadcast hsome (Option.some.inj hslot).symm

/-- A broadcast takes a step of its own. -/
theorem DispatchInv.advance (h : DispatchInv s) {b : ℕ} {a : Action} {w w' : World}
    {out : List Event} (hb : s.broadcasts b = some w) (ha : s.allows b a = true)
    (hs : w.step a = some (w', out)) : DispatchInv (s.advance b w' out) := by
  have hkeep : ∀ {i}, (s.broadcasts i).isSome = true →
      ((s.advance b w' out).broadcasts i).isSome = true :=
    fun hi => isSome_update_broadcasts hi b w'
  refine ⟨fun i hle => ?_, fun i hslot => hkeep (h.slot i hslot), h.starting, h.ending,
    fun i v hv hslot => ?_, fun τ hτ => ?_, fun τ hτ => hkeep (h.found τ hτ),
    fun τ hτ => ⟨hkeep (h.holds τ hτ).1, (h.holds τ hτ).2⟩, h.held,
    fun τ hτ => ⟨hkeep (h.calling τ hτ).1, (h.calling τ hτ).2⟩⟩
  · show Function.update s.broadcasts b (some w') i = none
    have hib : i ≠ b := by
      rintro rfl
      rw [h.fresh i hle] at hb
      cases hb
    rw [Function.update_of_ne hib]
    exact h.fresh i hle
  · have hv : Function.update s.broadcasts b (some w') i = some v := hv
    by_cases hib : i = b
    · rw [hib] at hslot hv
      rw [Function.update_self] at hv
      have hstop : a ≠ .stop := by
        rintro rfl
        exact hslot (h.slot_of_allows_stop ha)
      rw [← Option.some.inj hv, (moves_of_step hs).stopCall_eq hstop]
      exact h.stopped b w hb hslot
    · rw [Function.update_of_ne hib] at hv
      exact h.stopped i v hv hslot
  · rcases List.mem_append.mp hτ with hτ | hτ
    · exact hkeep (h.queued τ hτ)
    · rw [broadcast_of_mem_newTasks hτ]
      exact hkeep (by rw [hb]; rfl)

/-- **Step lemma.** -/
theorem DispatchInv.moves (h : DispatchInv s) (hmoves : DispatchMoves s a s' out) :
    DispatchInv s' := by
  cases hmoves with
  | create title rating gameId hm hb => exact h.create hm hb (.init title rating gameId)
  | finishStart b hm =>
      have hnot := h.task_ne_ending (by simp [hm])
      exact ⟨h.fresh, h.slot, fun _ hst => (nomatch hst), fun _ _ hend => (nomatch hend),
        h.stopped, h.queued, h.found, fun τ hτ => absurd hτ (hnot τ),
        fun _ _ hheld => (nomatch hheld), h.calling⟩
  | advance b a w w' out hb ha hs => exact h.advance hb ha hs
  | takeToEnd b hm hb =>
      have hnot := h.task_ne_ending (by simp [hm])
      refine ⟨h.fresh, h.slot, fun _ hst => (nomatch hst), fun i ender hend => ?_, h.stopped,
        h.queued, h.found, fun τ hτ => absurd hτ (hnot τ), fun _ _ hheld => (nomatch hheld),
        h.calling⟩
      rw [← (Holder.ending.inj (Option.some.inj hend)).1]
      exact hb
  | finishEnd b w hm hb hw =>
      have hnot := h.task_ne_ending (by simp [hm])
      have hslot : s.broadcast = some b := h.ending b .application hm
      exact ⟨h.fresh, fun _ hs => (nomatch hs), fun _ hst => (nomatch hst),
        fun _ _ hend => (nomatch hend), fun i v hv _ => h.stopCall_of_slot hslot hb hw hv,
        h.queued, h.found, fun τ hτ => absurd hτ (hnot τ), fun _ _ hheld => (nomatch hheld),
        fun τ hτ => ⟨(h.calling τ hτ).1, by simp⟩⟩
  | finishTask b τ w hm hb hw =>
      have hslot : s.broadcast = some b := h.ending b (.task τ) hm
      refine ⟨h.fresh, fun _ hs => (nomatch hs), fun _ hst => (nomatch hst),
        fun _ _ hend => (nomatch hend), fun i v hv _ => h.stopCall_of_slot hslot hb hw hv,
        h.queued, fun _ hτ => (nomatch hτ), fun _ hτ => (nomatch hτ),
        fun _ _ hheld => (nomatch hheld), fun τ' hτ => ⟨?_, by simp⟩⟩
      rw [← TaskState.calling.inj hτ]
      exact (h.holds τ (h.held b τ hm)).1
  | find τ rest ht hq hm hb =>
      refine ⟨h.fresh, h.slot, h.starting, h.ending, h.stopped, fun τ' hτ => ?_, fun τ' hτ => ?_,
        fun _ hτ => (nomatch hτ), fun b τ' hheld => ?_, fun _ hτ => (nomatch hτ)⟩
      · exact h.queued τ' (by rw [hq]; exact List.mem_cons_of_mem τ hτ)
      · rw [← TaskState.found.inj hτ]
        exact h.queued τ (by rw [hq]; exact List.mem_cons_self)
      · have hheld : s.broadcastMutex = _ := hheld
        rw [hm] at hheld
        cases hheld
  | skip τ rest ht hq =>
      exact ⟨h.fresh, h.slot, h.starting, h.ending, h.stopped,
        fun τ' hτ => h.queued τ' (by rw [hq]; exact List.mem_cons_of_mem τ hτ), h.found, h.holds,
        h.held, h.calling⟩
  | endTask τ b ht hm hb =>
      refine ⟨h.fresh, h.slot, fun _ hst => (nomatch hst), fun i ender hend => ?_, h.stopped,
        h.queued, fun _ hτ => (nomatch hτ), fun τ' hτ => ?_, fun i τ' hheld => ?_,
        fun _ hτ => (nomatch hτ)⟩
      · rw [← (Holder.ending.inj (Option.some.inj hend)).1]
        exact hb
      · rw [← TaskState.ending.inj hτ]
        exact ⟨h.found τ ht, b, rfl⟩
      · rw [Ender.task.inj (Holder.ending.inj (Option.some.inj hheld)).2]
  | endNothing τ ht hm hb =>
      -- the slot is empty, so the task calls its callback for a broadcast that has left it
      refine ⟨h.fresh, h.slot, h.starting, h.ending, h.stopped, h.queued, fun _ hτ => (nomatch hτ),
        fun _ hτ => (nomatch hτ), fun b τ' hheld => ?_, fun τ' hτ => ?_⟩
      · have hheld : s.broadcastMutex = _ := hheld
        rw [hm] at hheld
        cases hheld
      · rw [← TaskState.calling.inj hτ]
        exact ⟨h.found τ ht, by rw [hb]; simp⟩
  | callTask τ ht =>
      refine ⟨h.fresh, h.slot, h.starting, h.ending, h.stopped, h.queued, fun _ hτ => (nomatch hτ),
        fun _ hτ => (nomatch hτ), fun b τ' hheld => ?_, fun _ hτ => (nomatch hτ)⟩
      have hheld := h.held b τ' hheld
      rw [ht] at hheld
      cases hheld
  | stay a => exact h

end

/-! ## Every run -/

/-- A run of an instance from its construction. -/
def DispatchRuns (tr : List (Dispatch × DispatchAction)) (es : List DispatchEvent)
    (s : Dispatch) : Prop :=
  dispatchMachine.Run {} tr es s

/-- What is seen of broadcast `b`. -/
def eventsOf (b : ℕ) (es : List DispatchEvent) : List Event :=
  es.filterMap fun
    | .broadcast b' e => if b' = b then some e else none
    | _ => none

section

variable {tr : List (Dispatch × DispatchAction)} {es : List DispatchEvent} {s : Dispatch}

/-- **Run lemma.** -/
theorem DispatchRuns.inv (h : DispatchRuns tr es s) : DispatchInv s :=
  Machine.Run.invariant dispatchInv_init
    (fun _ _ _ _ hi hs => hi.moves (dispatchMoves_of_step hs)) h

theorem eventsOf_append (b : ℕ) (es es' : List DispatchEvent) :
    eventsOf b (es ++ es') = eventsOf b es ++ eventsOf b es' :=
  List.filterMap_append

theorem eventsOf_map_self (b : ℕ) (out : List Event) :
    eventsOf b (out.map (.broadcast b)) = out := by
  rw [eventsOf, List.filterMap_map]
  simp

theorem eventsOf_map_of_ne {b i : ℕ} (h : i ≠ b) (out : List Event) :
    eventsOf b (out.map (.broadcast i)) = [] := by
  rw [eventsOf, List.filterMap_map]
  simp [h]

/-- A step of broadcast `b` alone, as the machine of `b` sees it. -/
theorem DispatchMoves.cases_broadcast {s' : Dispatch} {a : DispatchAction}
    {out : List DispatchEvent} (hfresh : ∀ b, s.next ≤ b → s.broadcasts b = none)
    (h : DispatchMoves s a s' out) (b : ℕ) :
    (s'.broadcasts b = s.broadcasts b ∧ eventsOf b out = []) ∨
    (s.broadcasts b = none ∧ eventsOf b out = [] ∧
      ∃ title rating gameId, s'.broadcasts b = some (.init title rating gameId)) ∨
    ∃ a w w', s.broadcasts b = some w ∧ s'.broadcasts b = some w' ∧
      w.step a = some (w', eventsOf b out) := by
  cases h with
  | create title rating gameId hm hb =>
      by_cases hbn : b = s.next
      · refine .inr (.inl ⟨hfresh b (by omega), rfl, title, rating, gameId, ?_⟩)
        rw [hbn]
        exact Function.update_self ..
      · exact .inl ⟨Function.update_of_ne hbn .., rfl⟩
  | advance i a w w' out hi ha hs =>
      by_cases hbi : b = i
      · refine .inr (.inr ⟨a, w, w', by rw [hbi, hi], ?_, ?_⟩)
        · rw [hbi]
          exact Function.update_self ..
        · rw [hbi, eventsOf_map_self, hs]
      · exact .inl ⟨Function.update_of_ne hbi .., eventsOf_map_of_ne (Ne.symm hbi) out⟩
  | _ => exact .inl ⟨rfl, rfl⟩

/-- **Projection.**  What an instance does with one of its broadcasts is a run of the
broadcast. -/
theorem DispatchRuns.projection (h : DispatchRuns tr es s) (b : ℕ) :
    (s.broadcasts b = none → eventsOf b es = []) ∧ ∀ w, s.broadcasts b = some w →
      ∃ title rating gameId tr', Runs title rating gameId tr' (eventsOf b es) w := by
  refine (Machine.Run.induction_on_trace (I := fun _ es s => DispatchInv s ∧
    (s.broadcasts b = none → eventsOf b es = []) ∧ ∀ w, s.broadcasts b = some w →
      ∃ title rating gameId tr', Runs title rating gameId tr' (eventsOf b es) w)
    ⟨dispatchInv_init, fun _ => rfl, fun w hw => (nomatch hw)⟩ ?_ h).2
  rintro - es s a s' out ⟨hinv, hnone, hruns⟩ hs
  have hmoves := dispatchMoves_of_step hs
  refine ⟨hinv.moves hmoves, ?_⟩
  rw [eventsOf_append]
  rcases hmoves.cases_broadcast hinv.fresh b with ⟨hsame, hout⟩ |
    ⟨hnew, hout, title, rating, gameId, hinit⟩ | ⟨a', w, w', hw, hw', hstep⟩
  · rw [hsame, hout, List.append_nil]
    exact ⟨hnone, hruns⟩
  · -- the broadcast is created, and its run begins
    rw [hinit, hout, hnone hnew]
    refine ⟨fun hn => (nomatch hn), fun w hw => ⟨title, rating, gameId, [], ?_⟩⟩
    rw [← Option.some.inj hw]
    exact .refl _
  · rw [hw']
    refine ⟨fun hn => (nomatch hn), fun v hv => ?_⟩
    obtain ⟨title, rating, gameId, tr', hrun⟩ := hruns w hw
    rw [← Option.some.inj hv]
    exact ⟨title, rating, gameId, _, hrun.snoc hstep⟩

/-- A broadcast of an instance has a run of its own. -/
theorem DispatchRuns.exists_runs (h : DispatchRuns tr es s) {b : ℕ} {w : World}
    (hb : s.broadcasts b = some w) :
    ∃ title rating gameId tr' es', Runs title rating gameId tr' es' w := by
  obtain ⟨title, rating, gameId, tr', hrun⟩ := (h.projection b).2 w hb
  exact ⟨title, rating, gameId, tr', _, hrun⟩

/-- A broadcast of which anything has been seen is there. -/
theorem DispatchRuns.exists_of_mem (h : DispatchRuns tr es s) {b : ℕ} {e : Event}
    (he : e ∈ eventsOf b es) :
    ∃ w title rating gameId tr', s.broadcasts b = some w ∧
      Runs title rating gameId tr' (eventsOf b es) w := by
  rcases hb : s.broadcasts b with _ | w
  · rw [(h.projection b).1 hb] at he
    cases he
  · obtain ⟨title, rating, gameId, tr', hrun⟩ := (h.projection b).2 w hb
    exact ⟨w, title, rating, gameId, tr', rfl, hrun⟩

/-- The call of `failedCallback` comes after the end of its broadcast. -/
theorem DispatchRuns.calling_of_failedCallback (h : DispatchRuns tr es s) {τ : Task}
    {l₁ l₂ : List DispatchEvent} (hes : es = l₁ ++ .failedCallback τ :: l₂) :
    ∃ tr₁ tr₂ t, tr = tr₁ ++ tr₂ ∧ DispatchRuns tr₁ l₁ t ∧ t.task = .calling τ := by
  obtain ⟨tr₁, tr₂, es', t, a, t', out₁, out₂, htr, hrun, hs, hl⟩ := h.exists_step_of_output hes
  have hmoves := dispatchMoves_of_step hs
  generalize hout : out₁ ++ .failedCallback τ :: out₂ = out at hmoves
  have hmem : .failedCallback τ ∈ out := by rw [← hout]; simp
  cases hmoves with
  | callTask τ' ht =>
      rcases out₁ with _ | ⟨e, out₁⟩
      · rw [List.nil_append, List.cons.injEq] at hout
        rw [List.append_nil] at hl
        refine ⟨tr₁, _, t, htr, hl ▸ hrun, ?_⟩
        rw [ht, DispatchEvent.failedCallback.inj hout.1]
      · simp at hout
  | advance i a w w' out hb ha hs => simp at hmem
  | _ => simp at hmem

end

/-! ## A broadcast that fails -/

/-- The steps of an instance that starts broadcast `b`, up to the creation of its thread. -/
def createActions (b : ℕ) : List DispatchAction :=
  [.startBroadcast [] .none [], .broadcast b .start, .broadcast b (.encoderInfo false),
    .finishStart]

/-- The steps of the thread of broadcast `b` that waits in vain for its offer. -/
def offerFails (b : ℕ) : List DispatchAction :=
  List.replicate 3 (.broadcast b (.thread .success)) ++ [.broadcast b (.thread .failure)]

/-- The steps of an instance whose first broadcast fails, up to the end of the check
of its task. -/
def failActions : List DispatchAction := createActions 0 ++ offerFails 0 ++ [.checkTask]

/-- The steps of a task that stops broadcast `b`. -/
def endTaskActions (b : ℕ) : List DispatchAction :=
  .endTask :: List.replicate 3 (.broadcast b .stop) ++ [.finishEnd, .callTask]

end Caff
