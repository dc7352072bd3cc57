/-
# The heartbeats of a live broadcast

The loop of `startHeartbeat` counts in two places: `interval` is primed with the length
of a heartbeat interval, so that the first iteration sends, and `failures` is taken back
to zero by a heartbeat that succeeds.  Both counters are functions of the past: the one of
the number of iterations (`intervalAt`), the other of the answers (`failuresInARow`), and
so is the connection quality of the broadcast (`lastQuality`).  `AtLoop` says so for every
place in the loop, `LoopInv.run` that it stays so as long as the state is `Live`, and
`heartbeats_of_loop` reads off when the thread sends a heartbeat, when it gives up and
when it updates the feed.
-/
import Caffeine.BroadcastState
import Mathlib.Data.List.DropRight
import Mathlib.Data.List.ReduceOption

namespace Caff

open Publication (Stamped)

/-! ## The interval -/

/-- The iterations between two heartbeats. -/
def beatPeriod : ℕ := heartbeatInterval / checkInterval

/-- `interval` at the test of the loop after `n` iterations: primed for the first one, and
then the time since the last heartbeat. -/
def intervalAt (n : ℕ) : ℕ :=
  if n = 0 then heartbeatInterval else (n - 1) % beatPeriod * checkInterval

/-- The interval is through at every fiftieth iteration, -/
theorem intervalAt_add_lt_iff (n : ℕ) :
    intervalAt n + checkInterval < heartbeatInterval ↔ ¬ beatPeriod ∣ n := by
  have hperiod : beatPeriod = 50 := rfl
  unfold intervalAt checkInterval heartbeatInterval
  rw [hperiod]
  constructor
  · intro h hdvd
    split_ifs at h <;> omega
  · intro h
    split_ifs <;> omega

/-- where it starts again, -/
theorem intervalAt_succ_of_dvd {n : ℕ} (h : beatPeriod ∣ n) : intervalAt (n + 1) = 0 := by
  have hperiod : beatPeriod = 50 := rfl
  unfold intervalAt checkInterval heartbeatInterval
  rw [hperiod] at h ⊢
  split_ifs <;> omega

/-- and grows at the others. -/
theorem intervalAt_succ_of_not_dvd {n : ℕ} (h : ¬ beatPeriod ∣ n) :
    intervalAt (n + 1) = intervalAt n + checkInterval := by
  have hperiod : beatPeriod = 50 := rfl
  unfold intervalAt checkInterval heartbeatInterval
  rw [hperiod] at h ⊢
  have hn : n ≠ 0 := by
    intro hzero
    exact h (by rw [hzero]; exact Nat.dvd_zero 50)
  have hmod : n % 50 = (n - 1) % 50 + 1 := by omega
  rw [if_neg hn, if_neg n.succ_ne_zero, Nat.add_sub_cancel, hmod]
  omega

/-! ## The answers -/

/-- The answers to the heartbeats of a run, in order. -/
def answers (tr : List (World × Action)) : List (Option ConnectionQuality) :=
  tr.filterMap fun p =>
    match p.2 with
    | .thread (.heartbeat response) => some response
    | _ => none

/-- The failed heartbeats since the last success. -/
def failuresInARow (responses : List (Option ConnectionQuality)) : ℕ :=
  (responses.rtakeWhile Option.isNone).length

/-- The last quality reported, and `q` before there is one. -/
def lastQuality (q : ConnectionQuality) (responses : List (Option ConnectionQuality)) :
    ConnectionQuality :=
  responses.reduceOption.getLastD q

section

variable {tr : List (World × Action)} {w : World} {q quality : ConnectionQuality}
  {responses : List (Option ConnectionQuality)}

theorem answers_snoc_heartbeat (response : Option ConnectionQuality) :
    answers (tr ++ [(w, .thread (.heartbeat response))]) = answers tr ++ [response] := by
  simp [answers]

theorem answers_snoc {a : Action} (ha : ∀ response, a ≠ .thread (.heartbeat response)) :
    answers (tr ++ [(w, a)]) = answers tr := by
  unfold answers
  rw [List.filterMap_append, List.append_right_eq_self]
  apply List.filterMap_eq_nil_iff.mpr
  intro p hp
  rw [List.mem_singleton.mp hp]
  split
  · rename_i response h
    exact absurd h (ha response)
  · rfl

@[simp] theorem failuresInARow_snoc_none :
    failuresInARow (responses ++ [none]) = failuresInARow responses + 1 := by
  simp [failuresInARow]

@[simp] theorem failuresInARow_snoc_some :
    failuresInARow (responses ++ [some quality]) = 0 := by
  simp [failuresInARow]

@[simp] theorem lastQuality_snoc_none :
    lastQuality q (responses ++ [none]) = lastQuality q responses := by
  unfold lastQuality
  rw [← List.concat_eq_append, List.reduceOption_concat]
  simp

@[simp] theorem lastQuality_snoc_some :
    lastQuality q (responses ++ [some quality]) = quality := by
  unfold lastQuality
  rw [← List.concat_eq_append, List.reduceOption_concat]
  simp

end

/-! ## Places in the loop -/

/-- The thread has left the loop of a broadcast that is live, or died in it. -/
def Thread.loopOver : Thread → Bool
  | .afterLoop | .releaseStatsObserver | .finished | .aborted => true
  | _ => false

/-- The report of a broadcast whose heartbeats fail. -/
def disconnectedReport : Event := .failureReported .broadcastThread .disconnected

/-- The counter of the failures and the stored quality are those of the answers so far,
where `q` was stored before the loop. -/
structure Counted (q : ConnectionQuality) (responses : List (Option ConnectionQuality))
    (failures : ℕ) (stored : ConnectionQuality) : Prop where
  failures_eq : failures = failuresInARow responses
  failures_le : failures ≤ maxFailures
  quality_eq : stored = lastQuality q responses

/-- What holds at each place in the loop after `n` iterations and the answers `responses`. -/
def AtLoop (q : ConnectionQuality) (n : ℕ) (responses : List (Option ConnectionQuality))
    (w : World) : Prop :=
  match w.thread with
  | .loopTest interval failures | .loopSleep interval failures =>
      interval = intervalAt n ∧ Counted q responses failures w.connectionQuality
  | .heartbeat failures => intervalAt n = 0 ∧ Counted q responses failures w.connectionQuality
  | .storeQuality quality =>
      intervalAt n = 0 ∧ ∃ earlier, responses = earlier ++ [some quality] ∧
        w.connectionQuality = lastQuality q earlier
  | .readFeed | .updateFeed _ => intervalAt n = 0 ∧ Counted q responses 0 w.connectionQuality
  | t => t.loopOver = true ∧ w.connectionQuality = lastQuality q responses

/-- The ways the thread can go on in the loop of a live broadcast, after `n` iterations and
the answers `responses`. -/
inductive LoopMoves (q : ConnectionQuality) (n : ℕ) (responses : List (Option ConnectionQuality))
    (w : World) : Outcome → World → List Event → Prop
  | sleep (failures : ℕ) (hs : w.thread = .loopTest (intervalAt n) failures)
      (hn : ¬ beatPeriod ∣ n) (hc : Counted q responses failures w.connectionQuality) :
      LoopMoves q n responses w .success (w.goto (.loopSleep (intervalAt (n + 1)) failures))
        [.heartbeatIteration]
  | beat (failures : ℕ) (hs : w.thread = .loopTest (intervalAt n) failures)
      (hn : beatPeriod ∣ n) (hc : Counted q responses failures w.connectionQuality) :
      LoopMoves q n responses w .success (w.goto (.heartbeat failures)) [.heartbeatIteration]
  | answered (failures : ℕ) (quality : ConnectionQuality) (hs : w.thread = .heartbeat failures)
      (hn : intervalAt n = 0) (hq : w.connectionQuality = lastQuality q responses) :
      LoopMoves q n responses w (.heartbeat (some quality)) (w.goto (.storeQuality quality))
        [.heartbeat]
  | failed (failures : ℕ) (hs : w.thread = .heartbeat failures) (hn : intervalAt n = 0)
      (hc : Counted q responses failures w.connectionQuality) (hf : failures + 1 ≤ maxFailures) :
      LoopMoves q n responses w (.heartbeat none) (w.goto (.loopSleep 0 (failures + 1)))
        [.heartbeat]
  | disconnect (hs : w.thread = .heartbeat maxFailures)
      (hc : Counted q responses maxFailures w.connectionQuality) :
      LoopMoves q n responses w (.heartbeat none) (w.goto .afterLoop)
        [.heartbeat, disconnectedReport]
  | newQuality (quality : ConnectionQuality) (earlier : List (Option ConnectionQuality))
      (hs : w.thread = .storeQuality quality) (hn : intervalAt n = 0)
      (hr : responses = earlier ++ [some quality])
      (hq : w.connectionQuality = lastQuality q earlier) (hne : quality ≠ w.connectionQuality) :
      LoopMoves q n responses w .success
        (({ w with connectionQuality := quality }).goto .readFeed) []
  | sameQuality (earlier : List (Option ConnectionQuality))
      (hs : w.thread = .storeQuality w.connectionQuality) (hn : intervalAt n = 0)
      (hr : responses = earlier ++ [some w.connectionQuality]) :
      LoopMoves q n responses w .success (w.goto (.loopSleep 0 0)) []
  | sendUpdate (hs : w.thread = .readFeed) (hn : intervalAt n = 0)
      (hc : Counted q responses 0 w.connectionQuality) :
      LoopMoves q n responses w .success (w.request (.updateFeed w.currentGame)) []
  | updated (x : Stamped (Option Bytes)) (hs : w.thread = .updateFeed x) (hn : intervalAt n = 0)
      (hc : Counted q responses 0 w.connectionQuality) :
      LoopMoves q n responses w .success (w.goto (.loopSleep 0 0)) []
  | wake (failures : ℕ) (hs : w.thread = .loopSleep (intervalAt n) failures)
      (hc : Counted q responses failures w.connectionQuality) :
      LoopMoves q n responses w .success (w.goto (.loopTest (intervalAt n) failures)) []
  -- the exits without a report of lost heartbeats, and the steps behind the loop
  | leave {o : Outcome} {w' : World} {out : List Event}
      (ho : ∀ response, o ≠ .heartbeat response) (hs : ∀ quality, w.thread ≠ .storeQuality quality)
      (hover : w'.thread.loopOver = true) (hsame : w'.connectionQuality = w.connectionQuality)
      (hq : w.connectionQuality = lastQuality q responses)
      (hiteration : .heartbeatIteration ∉ out) (hreport : disconnectedReport ∉ out) :
      LoopMoves q n responses w o w' out

section

variable {q : ConnectionQuality} {n : ℕ} {responses : List (Option ConnectionQuality)}
  {w w' : World} {a : Action} {o : Outcome} {out : List Event}

theorem AtLoop.loopTest {interval failures : ℕ} (h : AtLoop q n responses w)
    (hs : w.thread = .loopTest interval failures) :
    interval = intervalAt n ∧ Counted q responses failures w.connectionQuality := by
  unfold AtLoop at h
  rw [hs] at h
  exact h

theorem AtLoop.loopSleep {interval failures : ℕ} (h : AtLoop q n responses w)
    (hs : w.thread = .loopSleep interval failures) :
    interval = intervalAt n ∧ Counted q responses failures w.connectionQuality := by
  unfold AtLoop at h
  rw [hs] at h
  exact h

theorem AtLoop.heartbeat {failures : ℕ} (h : AtLoop q n responses w)
    (hs : w.thread = .heartbeat failures) :
    intervalAt n = 0 ∧ Counted q responses failures w.connectionQuality := by
  unfold AtLoop at h
  rw [hs] at h
  exact h

theorem AtLoop.storeQuality {quality : ConnectionQuality} (h : AtLoop q n responses w)
    (hs : w.thread = .storeQuality quality) :
    intervalAt n = 0 ∧ ∃ earlier, responses = earlier ++ [some quality] ∧
      w.connectionQuality = lastQuality q earlier := by
  unfold AtLoop at h
  rw [hs] at h
  exact h

theorem AtLoop.update (h : AtLoop q n responses w)
    (hs : w.thread = .readFeed ∨ ∃ x, w.thread = .updateFeed x) :
    intervalAt n = 0 ∧ Counted q responses 0 w.connectionQuality := by
  unfold AtLoop at h
  rcases hs with hs | ⟨x, hs⟩
  · rw [hs] at h
    exact h
  · rw [hs] at h
    exact h

theorem atLoop_of_loopOver (h : w.thread.loopOver = true)
    (hq : w.connectionQuality = lastQuality q responses) : AtLoop q n responses w := by
  unfold AtLoop
  split
  case h_7 => exact ⟨h, hq⟩
  all_goals
    rename_i hs
    rw [hs] at h
    cases h

/-- Anywhere but where a new quality is to be stored, the stored one is the last reported. -/
theorem AtLoop.quality_eq (h : AtLoop q n responses w)
    (hs : ∀ quality, w.thread ≠ .storeQuality quality) :
    w.connectionQuality = lastQuality q responses := by
  unfold AtLoop at h
  split at h
  case h_4 quality hquality => exact absurd hquality (hs quality)
  case h_7 => exact h.2
  all_goals exact h.2.quality_eq

/-- An exception in the loop shows a heartbeat at most. -/
theorem AtLoop.abortEvents (h : AtLoop q n responses w) :
    ∀ e ∈ w.abortEvents, e = .heartbeat := by
  unfold AtLoop at h
  unfold World.abortEvents
  split
  case h_1 p hs =>
    rw [hs] at h
    cases h.1
  case h_3 hs =>
    rw [hs] at h
    cases h.1
  all_goals simp

/-- **Inversion of a step in the loop.** -/
theorem AtLoop.loopMoves (h : AtLoop q n responses w) (hlive : w.state = .live)
    (hmoves : ThreadMoves w o w' out) : LoopMoves q n responses w o w' out := by
  cases hmoves with
  | sleepOn interval failures hs hstate hi =>
      obtain ⟨rfl, hc⟩ := h.loopTest hs
      have hn := (intervalAt_add_lt_iff n).mp hi
      rw [← intervalAt_succ_of_not_dvd hn]
      exact .sleep failures hs hn hc
  | beat interval failures hs hstate hi =>
      obtain ⟨rfl, hc⟩ := h.loopTest hs
      have hn := not_not.mp (mt (intervalAt_add_lt_iff n).mpr hi)
      exact .beat failures hs hn hc
  | leaveLoop interval failures hs hstate => exact absurd hlive hstate
  | beatAnswered failures quality hs =>
      obtain ⟨hn, hc⟩ := h.heartbeat hs
      exact .answered failures quality hs hn hc.quality_eq
  | beatFailed failures hs hf =>
      obtain ⟨hn, hc⟩ := h.heartbeat hs
      exact .failed failures hs hn hc (by omega)
  | disconnect failures hs hf =>
      obtain ⟨hn, hc⟩ := h.heartbeat hs
      have hle := hc.failures_le
      obtain rfl : failures = maxFailures := by omega
      exact .disconnect hs hc
  | newQuality quality hs hq =>
      obtain ⟨hn, earlier, hr, hstored⟩ := h.storeQuality hs
      exact .newQuality quality earlier hs hn hr hstored hq
  | sameQuality quality hs hq =>
      obtain ⟨hn, earlier, hr, hstored⟩ := h.storeQuality hs
      subst hq
      exact .sameQuality earlier hs hn hr
  | sendUpdate hs =>
      obtain ⟨hn, hc⟩ := h.update (.inl hs)
      exact .sendUpdate hs hn hc
  | updateAnswered x hs hserved =>
      obtain ⟨hn, hc⟩ := h.update (.inr ⟨x, hs⟩)
      exact .updated x hs hn hc
  | wake interval failures hs =>
      obtain ⟨rfl, hc⟩ := h.loopSleep hs
      exact .wake failures hs hc
  -- out of the loop
  | updateFailed x hs =>
      exact .leave (by simp) (by simp [hs]) rfl rfl (h.quality_eq (by simp [hs])) (by simp)
        (by simp [disconnectedReport])
  | abort hs =>
      have hquality : ∀ quality, w.thread ≠ .storeQuality quality := by
        intro quality ht
        rw [ht] at hs
        cases hs
      have hevents : ∀ e ∈ w.abortEvents, e = .heartbeat := h.abortEvents
      exact .leave (by simp) hquality rfl rfl (h.quality_eq hquality)
        (fun he => absurd (hevents _ he) (by decide)) (fun he => absurd (hevents _ he) (by decide))
  -- behind the loop
  | endAfterLoop hs hstate =>
      exact .leave (by simp) (by simp [hs]) rfl rfl (h.quality_eq (by simp [hs])) (by simp)
        (by simp)
  | release hs =>
      exact .leave (by simp) (by simp [hs]) rfl rfl (h.quality_eq (by simp [hs])) (by simp)
        (by simp)
  | stopAfterLoop hs hstate =>
      rw [hlive] at hstate
      cases hstate
  -- and no other place of the thread is one in the loop
  | _ => simp [AtLoop, Thread.loopOver, *] at h

end

/-! ## One step -/

/-- The thread sends a heartbeat: it comes to wait for the answer to one. -/
def SendsHeartbeat (w w' : World) : Prop :=
  (∃ failures, w'.thread = .heartbeat failures) ∧ ∀ failures, w.thread ≠ .heartbeat failures

/-- The thread calls `updateFeed`. -/
def CallsUpdateFeed (w w' : World) : Prop := w'.thread = .readFeed ∧ w.thread ≠ .readFeed

/-- What the loop does in a step, after the steps `tr` with the events `es`, where the
quality `q` was stored before the loop. -/
structure HeartbeatLaw (q : ConnectionQuality) (tr : List (World × Action)) (es : List Event)
    (w : World) (a : Action) (w' : World) (out : List Event) : Prop where
  /-- Every fiftieth iteration sends a heartbeat, and nothing else does. -/
  sends : SendsHeartbeat w w' ↔
    .heartbeatIteration ∈ out ∧ 50 ∣ es.count .heartbeatIteration
  /-- The sixth failure in a row is reported, and nothing else is. -/
  reports : disconnectedReport ∈ out ↔
    a = .thread (.heartbeat none) ∧ failuresInARow (answers (tr ++ [(w, a)])) = 6
  /-- After the report no heartbeat is sent. -/
  silent : disconnectedReport ∈ es → ¬ SendsHeartbeat w w'
  /-- A success is followed by the comparison with the stored quality, -/
  answered : ∀ quality, a = .thread (.heartbeat (some quality)) →
    w'.thread = .storeQuality quality
  /-- which calls `updateFeed` if the quality is not the stored one, and nothing else does. -/
  updates : CallsUpdateFeed w w' ↔
    (∃ o, a = .thread o) ∧ ∃ earlier quality, answers tr = earlier ++ [some quality] ∧
      w.thread = .storeQuality quality ∧ w.connectionQuality = lastQuality q earlier ∧
        quality ≠ w.connectionQuality
  /-- Anywhere but at the comparison the stored quality is the last reported. -/
  stored : (∀ quality, w'.thread ≠ .storeQuality quality) →
    w'.connectionQuality = lastQuality q (answers (tr ++ [(w, a)]))

section

variable {q : ConnectionQuality} {n : ℕ} {tr : List (World × Action)} {es : List Event}
  {responses : List (Option ConnectionQuality)} {w w' : World} {a : Action} {o : Outcome}
  {out : List Event}

/-- A step in the loop leads to a place in the loop. -/
theorem LoopMoves.atLoop (h : LoopMoves q n (answers tr) w o w' out) :
    AtLoop q (n + out.count .heartbeatIteration) (answers (tr ++ [(w, .thread o)])) w' := by
  cases h with
  | sleep failures hs hn hc =>
      rw [answers_snoc (by simp)]
      exact ⟨rfl, hc⟩
  | beat failures hs hn hc =>
      rw [answers_snoc (by simp)]
      exact ⟨intervalAt_succ_of_dvd hn, hc⟩
  | answered failures quality hs hn hq =>
      rw [answers_snoc_heartbeat]
      exact ⟨hn, answers tr, rfl, hq⟩
  | failed failures hs hn hc hf =>
      rw [answers_snoc_heartbeat]
      refine ⟨hn.symm, ?_, hf, ?_⟩
      · rw [failuresInARow_snoc_none, hc.failures_eq]
      · rw [lastQuality_snoc_none]
        exact hc.quality_eq
  | disconnect hs hc =>
      rw [answers_snoc_heartbeat]
      refine ⟨rfl, ?_⟩
      rw [lastQuality_snoc_none]
      exact hc.quality_eq
  | newQuality quality earlier hs hn hr hq hne =>
      rw [answers_snoc (by simp), hr]
      exact ⟨hn, failuresInARow_snoc_some.symm, Nat.zero_le _, lastQuality_snoc_some.symm⟩
  | sameQuality earlier hs hn hr =>
      rw [answers_snoc (by simp), hr]
      exact ⟨hn.symm, failuresInARow_snoc_some.symm, Nat.zero_le _, lastQuality_snoc_some.symm⟩
  | sendUpdate hs hn hc =>
      rw [answers_snoc (by simp)]
      exact ⟨hn, hc⟩
  | updated x hs hn hc =>
      rw [answers_snoc (by simp)]
      exact ⟨hn.symm, hc⟩
  | wake failures hs hc =>
      rw [answers_snoc (by simp)]
      exact ⟨rfl, hc⟩
  | leave ho hs hover hsame hq hiteration hreport =>
      rw [answers_snoc (by simpa using ho)]
      exact atLoop_of_loopOver hover (hsame.trans hq)

theorem LoopMoves.sends (h : LoopMoves q n responses w o w' out) :
    SendsHeartbeat w w' ↔ .heartbeatIteration ∈ out ∧ beatPeriod ∣ n := by
  unfold SendsHeartbeat
  cases h with
  | sleep failures hs hn hc => simp [hn]
  | beat failures hs hn hc => simp [hs, hn]
  | leave ho hs hover hsame hq hiteration hreport =>
      have hnot : ∀ failures, w'.thread ≠ .heartbeat failures := by
        intro failures ht
        rw [ht] at hover
        cases hover
      simp [hnot, hiteration]
  | sendUpdate hs hn hc => simp [World.request]
  | _ => simp [disconnectedReport]

theorem LoopMoves.reports (h : LoopMoves q n (answers tr) w o w' out) :
    disconnectedReport ∈ out ↔ Action.thread o = .thread (.heartbeat none) ∧
      failuresInARow (answers (tr ++ [(w, .thread o)])) = maxFailures + 1 := by
  cases h with
  | failed failures hs hn hc hf =>
      have hle : failuresInARow (answers tr) + 1 ≤ maxFailures := by
        rw [← hc.failures_eq]
        exact hf
      have hne : failuresInARow (answers tr) ≠ maxFailures := by omega
      simp [answers_snoc_heartbeat, disconnectedReport, hne]
  | disconnect hs hc =>
      simp [answers_snoc_heartbeat, ← hc.failures_eq]
  | leave ho hs hover hsame hq hiteration hreport => simp [hreport, ho]
  | _ => simp [disconnectedReport]

theorem LoopMoves.updates (h : LoopMoves q n responses w o w' out) :
    CallsUpdateFeed w w' ↔ ∃ earlier quality, responses = earlier ++ [some quality] ∧
      w.thread = .storeQuality quality ∧ w.connectionQuality = lastQuality q earlier ∧
        quality ≠ w.connectionQuality := by
  unfold CallsUpdateFeed
  cases h with
  | newQuality quality earlier hs hn hr hq hne =>
      simp only [World.goto_thread, hs, ne_eq, reduceCtorEq, not_false_eq_true, and_true, true_iff]
      exact ⟨earlier, quality, hr, rfl, hq, hne⟩
  | sameQuality earlier hs hn hr =>
      simp only [World.goto_thread, reduceCtorEq, false_and, false_iff]
      rintro ⟨earlier', quality, -, ht, -, hne⟩
      rw [hs, Thread.storeQuality.injEq] at ht
      exact hne ht.symm
  | leave ho hs hover hsame hq hiteration hreport =>
      have hnot : w'.thread ≠ .readFeed := by
        intro ht
        rw [ht] at hover
        cases hover
      simp [hnot, hs]
  | sendUpdate hs hn hc => simp [World.request, hs]
  | _ => simp [*]

end

/-! ## Everything else -/

/-- A step from `w` that leaves the stored quality alone, as a property of where it leads
and what it shows. -/
structure KeepsQuality (w w' : World) (_ : List Event) : Prop where
  eq : w'.connectionQuality = w.connectionQuality

section

variable {q : ConnectionQuality} {n : ℕ} {responses : List (Option ConnectionQuality)}
  {w w' : World} {a : Action} {out : List Event} {i : ℕ}

/-- A place in the loop is one of the thread and the stored quality. -/
theorem AtLoop.congr (h : AtLoop q n responses w) (hthread : w'.thread = w.thread)
    (hq : w'.connectionQuality = w.connectionQuality) : AtLoop q n responses w' := by
  unfold AtLoop at h ⊢
  rw [hthread, hq]
  exact h

/-- Only the thread stores a quality. -/
theorem keepsQuality_of_step (ha : ∀ o, a ≠ .thread o) (h : w.step a = some (w', out)) :
    KeepsQuality w w' out := by
  cases otherMoves_of_step ha h <;> exact ⟨rfl⟩

end

/-! ## Every run -/

/-- The loop after the steps `tr` with the events `es`, where `q` was stored before it. -/
structure LoopInv (q : ConnectionQuality) (tr : List (World × Action)) (es : List Event)
    (w : World) : Prop where
  created : w.startCall = .returned
  place : AtLoop q (es.count .heartbeatIteration) (answers tr) w
  reported : disconnectedReport ∈ es → w.thread.loopOver = true ∧ es.count disconnectedReport = 1

section

variable {q : ConnectionQuality} {tr : List (World × Action)} {es : List Event}
  {w w' : World} {a : Action} {o : Outcome} {out : List Event}

/-- Behind the loop the thread stays behind it, and reports nothing more. -/
theorem LoopMoves.of_loopOver {n : ℕ} {responses : List (Option ConnectionQuality)}
    (h : LoopMoves q n responses w o w' out) (hover : w.thread.loopOver = true) :
    w'.thread.loopOver = true ∧ disconnectedReport ∉ out := by
  cases h with
  | leave ho hs hover' hsame hq hiteration hreport => exact ⟨hover', hreport⟩
  | _ => simp [*, Thread.loopOver] at hover

/-- The report of lost heartbeats is made once, on the way out of the loop. -/
theorem LoopMoves.of_report {n : ℕ} {responses : List (Option ConnectionQuality)}
    (h : LoopMoves q n responses w o w' out) (hmem : disconnectedReport ∈ out) :
    w'.thread.loopOver = true ∧ out.count disconnectedReport = 1 := by
  cases h with
  | disconnect hs hc => exact ⟨rfl, rfl⟩
  | leave ho hs hover hsame hq hiteration hreport => exact absurd hmem hreport
  | _ => simp [disconnectedReport] at hmem

theorem LoopMoves.thread_of_answered {n : ℕ} {responses : List (Option ConnectionQuality)}
    {quality : ConnectionQuality}
    (h : LoopMoves q n responses w (.heartbeat (some quality)) w' out) :
    w'.thread = .storeQuality quality := by
  cases h with
  | answered failures quality hs hn hq => rfl
  | leave ho hs hover hsame hq hiteration hreport => exact absurd rfl (ho _)

/-- No heartbeat is sent from behind the loop. -/
theorem not_sendsHeartbeat_of_loopOver (h : w'.thread.loopOver = true) :
    ¬ SendsHeartbeat w w' := by
  rintro ⟨⟨failures, ht⟩, -⟩
  rw [ht] at h
  cases h

/-- **Step lemma for the thread.** -/
theorem LoopInv.threadMoves (h : LoopInv q tr es w) (hlive : w.state = .live)
    (hmoves : ThreadMoves w o w' out) :
    LoopInv q (tr ++ [(w, .thread o)]) (es ++ out) w' ∧
      HeartbeatLaw q tr es w (.thread o) w' out := by
  have hloop := h.place.loopMoves hlive hmoves
  have hplace := hloop.atLoop
  constructor
  · constructor
    · rw [hmoves.startCall_eq]
      exact h.created
    · rw [List.count_append]
      exact hplace
    · intro hmem
      rw [List.count_append]
      by_cases hes : disconnectedReport ∈ es
      · obtain ⟨hover, hcount⟩ := h.reported hes
        obtain ⟨hover', hout⟩ := hloop.of_loopOver hover
        refine ⟨hover', ?_⟩
        rw [hcount, List.count_eq_zero_of_not_mem hout]
      · have hout := (List.mem_append.mp hmem).resolve_left hes
        obtain ⟨hover, hcount⟩ := hloop.of_report hout
        refine ⟨hover, ?_⟩
        rw [hcount, List.count_eq_zero_of_not_mem hes]
  · constructor
    · exact hloop.sends
    · exact hloop.reports
    · intro hmem
      exact not_sendsHeartbeat_of_loopOver (hloop.of_loopOver (h.reported hmem).1).1
    · rintro quality ⟨rfl⟩
      exact hloop.thread_of_answered
    · rw [hloop.updates, and_iff_right ⟨o, rfl⟩]
    · exact hplace.quality_eq

/-- **Step lemma for everything else.** -/
theorem LoopInv.other (h : LoopInv q tr es w) (hstep : w.step a = some (w', out))
    (ha : ∀ o, a ≠ .thread o) (hthread : w'.thread = w.thread)
    (hcreated : w'.startCall = .returned) (hevents : threadEvents out = []) :
    LoopInv q (tr ++ [(w, a)]) (es ++ out) w' ∧ HeartbeatLaw q tr es w a w' out := by
  have hquality := (keepsQuality_of_step ha hstep).eq
  have hanswers : answers (tr ++ [(w, a)]) = answers tr := answers_snoc fun response => ha _
  have hnot : ∀ e, e.ofThread = true → e ∉ out := by
    intro e he hmem
    rw [← mem_threadEvents_iff he, hevents] at hmem
    cases hmem
  have hiteration := hnot .heartbeatIteration rfl
  have hreport := hnot disconnectedReport rfl
  have hplace : AtLoop q ((es ++ out).count .heartbeatIteration) (answers (tr ++ [(w, a)])) w' := by
    rw [hanswers, List.count_append, List.count_eq_zero_of_not_mem hiteration]
    exact h.place.congr hthread hquality
  have hsend : ¬ SendsHeartbeat w w' := by
    rintro ⟨⟨failures, ht⟩, hne⟩
    exact hne failures (hthread ▸ ht)
  constructor
  · refine ⟨hcreated, hplace, ?_⟩
    intro hmem
    have hes := (List.mem_append.mp hmem).resolve_right hreport
    rw [hthread, List.count_append, List.count_eq_zero_of_not_mem hreport]
    exact h.reported hes
  · constructor
    · exact iff_of_false hsend fun hc => hiteration hc.1
    · exact iff_of_false hreport fun hc => ha _ hc.1
    · intro _
      exact hsend
    · intro quality hq
      exact absurd hq (ha _)
    · refine iff_of_false ?_ fun hc => ?_
      · rintro ⟨ht, hne⟩
        exact hne (hthread ▸ ht)
      · obtain ⟨⟨o, ho⟩, -⟩ := hc
        exact ha o ho
    · exact hplace.quality_eq

/-- There is a thread as long as there is the loop. -/
theorem AtLoop.thread_ne {n : ℕ} {responses : List (Option ConnectionQuality)}
    (h : AtLoop q n responses w) : w.thread ≠ .notCreated := by
  intro ht
  unfold AtLoop at h
  rw [ht] at h
  cases h.1

/-- **Step lemma.** -/
theorem LoopInv.step (h : LoopInv q tr es w) (hlive : w.state = .live)
    (hstep : w.step a = some (w', out)) :
    LoopInv q (tr ++ [(w, a)]) (es ++ out) w' ∧ HeartbeatLaw q tr es w a w' out := by
  have hmoves := moves_of_step hstep
  rcases hmoves.cases_thread with ⟨o, rfl, hthread, -⟩ | ⟨ha, hevents, hthread⟩
  · exact h.threadMoves hlive hthread
  · have hsame : w'.thread = w.thread := by
      rcases hthread with hthread | ⟨hawaiting, -⟩
      · exact hthread
      · rw [h.created] at hawaiting
        cases hawaiting
    have hcreated : w'.startCall = .returned := by
      apply Moves.startCall_of_thread (fun _ => h.created) hmoves
      rw [hsame]
      exact h.place.thread_ne
    exact h.other hstep ha hsame hcreated (hevents [])

/-- **Run lemma.** -/
theorem LoopInv.run {s : World} (hcreated : s.startCall = .returned)
    (hstart : s.thread = .loopTest heartbeatInterval 0)
    (hrun : broadcastMachine.Run s tr es w)
    (hlive : Machine.Meets (fun w _ => w.state = .live) tr) :
    LoopInv s.connectionQuality tr es w := by
  induction hrun with
  | refl =>
      refine ⟨hcreated, ?_, by simp⟩
      unfold AtLoop
      rw [hstart]
      exact ⟨rfl, rfl, Nat.zero_le _, rfl⟩
  | snoc hrun hstep ih =>
      obtain ⟨htr, hlast⟩ := Machine.meets_snoc.mp hlive
      exact ((ih htr).step hlast hstep).1

variable {title gameId : Bytes} {rating : Rating} {tr₀ : List (World × Action)}
  {es₀ : List Event} {s s' : World}

/-- Every step of the run from `s` obeys the law. -/
def HeartbeatsLawful (s : World) (tr : List (World × Action)) (es : List Event) : Prop :=
  ∀ tr₁ w a tr₂, tr = tr₁ ++ (w, a) :: tr₂ →
    ∃ es₁ w' out es₂, broadcastMachine.Run s tr₁ es₁ w ∧
      broadcastMachine.step w a = some (w', out) ∧ es = es₁ ++ (out ++ es₂) ∧
      HeartbeatLaw s.connectionQuality tr₁ es₁ w a w' out

/-- **The heartbeats of a live broadcast.**  In every run that goes on from the start of
the loop and in which the state stays `Live`, every step obeys `HeartbeatLaw`: the thread
sends a heartbeat at the iterations 0, 50, 100 and so on, until it reports that six of them
failed in a row, which it does once, and it calls `updateFeed` for each success with a
quality that is not the stored one. -/
theorem heartbeats_of_loop (hreached : Runs title rating gameId tr₀ es₀ s)
    (hstart : s.thread = .loopTest heartbeatInterval 0)
    (hrun : broadcastMachine.Run s tr es s')
    (hlive : Machine.Meets (fun w _ => w.state = .live) tr) :
    HeartbeatsLawful s tr es ∧ es.count disconnectedReport ≤ 1 := by
  have hcreated : s.startCall = .returned := by
    apply hreached.startCall_of_thread
    rw [hstart]
    simp
  constructor
  · intro tr₁ w a tr₂ htr
    obtain ⟨es₁, w', out, es₂, hrun₁, hstep, -, hes⟩ := hrun.split htr
    rw [htr] at hlive
    have hinv := LoopInv.run hcreated hstart hrun₁ hlive.of_append
    have hw : w.state = .live := hlive (w, a) (by simp)
    exact ⟨es₁, w', out, es₂, hrun₁, hstep, hes, (hinv.step hw hstep).2⟩
  · have hinv := LoopInv.run hcreated hstart hrun hlive
    by_cases hmem : disconnectedReport ∈ es
    · rw [(hinv.reported hmem).2]
    · rw [List.count_eq_zero_of_not_mem hmem]
      exact Nat.zero_le 1

end

/-- A heartbeat that succeeds with a poor connection, the update of the feed, and a
heartbeat that fails. -/
def poorActions : List Action :=
  [.thread .success, .thread (.heartbeat (some .poor))] ++
  List.replicate 2 (.thread .success) ++ [.serveThread] ++
  List.replicate 101 (.thread .success) ++ [.thread (.heartbeat none)]

/-- What is evaluated of the broadcast that goes live and then takes these steps. -/
def poorRun : Bool :=
  (broadcastMachine.exec (World.init [] .none []) liveActions).any fun live =>
    live.1.thread = .loopTest heartbeatInterval 0 ∧
      Machine.Meets (fun w _ => w.state = .live) (broadcastMachine.trace live.1 poorActions) ∧
      (broadcastMachine.exec live.1 poorActions).any fun later =>
        later.1.thread = .loopSleep 0 1 ∧ later.1.connectionQuality = .poor

/-- The broadcast that has gone live obeys the law through them. -/
theorem heartbeats_of_loop_poor :
    ∃ tr₀ es₀ s tr es s', Runs [] .none [] tr₀ es₀ s ∧ tr₀.map Prod.snd = liveActions ∧
      broadcastMachine.Run s tr es s' ∧ tr.map Prod.snd = poorActions ∧
      s'.thread = .loopSleep 0 1 ∧ s'.connectionQuality = .poor ∧
      HeartbeatsLawful s tr es ∧ es.count disconnectedReport ≤ 1 := by
  have hpoor : poorRun = true := by decide +kernel
  obtain ⟨⟨s, es₀⟩, hexec₀, hlater⟩ := (Option.any_eq_true _ _).mp hpoor
  obtain ⟨hstart, hlive, hlater⟩ := of_decide_eq_true hlater
  obtain ⟨⟨s', es⟩, hexec, hend⟩ := (Option.any_eq_true _ _).mp hlater
  obtain ⟨hthread, hquality⟩ := of_decide_eq_true hend
  refine ⟨_, es₀, s, _, es, s', .of_exec hexec₀, Machine.map_snd_trace hexec₀, .of_exec hexec,
    Machine.map_snd_trace hexec, hthread, hquality, ?_⟩
  exact heartbeats_of_loop (.of_exec hexec₀) hstart (.of_exec hexec) hlive

end Caff
