/-
# Leaving the stage live

`startHeartbeat` sends `StopBroadcast` on two of its exits after a successful
`StartBroadcast`: if `stop` came before the transition to `Live`, and if the state is
`Stopping` when the heartbeat loop is over.  After too many failed heartbeats the
state may still be `Live`, and a failed feed update returns at once.
-/
import Caffeine.BroadcastRegions

namespace Caff

open Publication (Stamped)

/-- The condition on a step: no feed update of the heartbeat loop fails, and when the
loop is over `stop` has been called. -/
def StopHandled (s : World) (a : Action) : Prop :=
  (∀ x, s.thread = .updateFeed x → a ≠ .thread .failure) ∧
  (∀ o, s.thread = .afterLoop → a = .thread o → s.state = .stopping)

/-! ## The history of the thread, with the condition met so far or not -/

inductive StopPhase (M : Prop) : List Event → Thread → Prop
  | before {l : List Event} {t : Thread} (ht : t.region = .starting ∨ t.region = .streaming)
      (hstart : ∀ p, .startBroadcast p ∉ l) (hstop : .stopBroadcast ∉ l) (hM : M) :
      StopPhase M l t
  | onAir {l : List Event} {t : Thread}
      (ht : t.region = .goingLive ∨ t.region = .looping ∨ t.region = .stopping)
      (hstop : .stopBroadcast ∉ l) (hM : M) : StopPhase M l t
  | gaveUp {l : List Event} {t : Thread} (ht : t.region = .ended)
      (hstart : ∀ p, .startBroadcast p ∉ l) : StopPhase M l t
  | died {l : List Event} : StopPhase M l .aborted
  | left {l : List Event} {t : Thread} (ht : t.region = .ended) (hiff : .stopBroadcast ∈ l ↔ M) :
      StopPhase M l t

section

variable {s s' : World} {o : Outcome} {out l : List Event} {M : Prop}

/-- The condition is about the loop only. -/
theorem stopHandled_of_region (h : s.thread.region ≠ .looping) : StopHandled s (.thread o) := by
  constructor
  · intro x hs
    rw [hs] at h
    exact absurd rfl h
  · intro o' hs
    rw [hs] at h
    exact absurd rfl h

/-- And about the thread only. -/
theorem stopHandled_of_other {a : Action} (ha : ∀ o, a ≠ .thread o) : StopHandled s a :=
  ⟨fun _ _ => ha .failure, fun o _ h => absurd h (ha o)⟩

/-- The creation of the thread. -/
theorem StopPhase.create (h : StopPhase M l .notCreated) :
    StopPhase M l (.stage .setupSubscription) := by
  cases h with
  | before ht hstart hstop hM => exact .before (.inl rfl) hstart hstop hM
  | onAir ht => simp [Thread.region] at ht
  | gaveUp ht => cases ht
  | left ht => cases ht

/-- **Step lemma, before the answer.** -/
theorem StopPhase.of_before (ht : s.thread.region = .starting ∨ s.thread.region = .streaming)
    (hstart : ∀ p, .startBroadcast p ∉ l) (hstop : .stopBroadcast ∉ l) (hM : M)
    (hmoves : RegionMoves s o s' out) :
    StopPhase (M ∧ StopHandled s (.thread o)) (l ++ out) s'.thread := by
  have hM' : M ∧ StopHandled s (.thread o) :=
    ⟨hM, stopHandled_of_region (by rcases ht with ht | ht <;> rw [ht] <;> decide)⟩
  cases hmoves with
  | starting h h' hout =>
      exact .before (.inl h') (by simp [hout, hstart]) (by simp [hout, hstop]) hM'
  | started h h' hout =>
      exact .before (.inr h') (by simp [hout, hstart]) (by simp [hout, hstop]) hM'
  | startFailed h h' hout =>
      refine .gaveUp h' fun p hmem => ?_
      rcases List.mem_append.mp hmem with hmem | hmem
      · exact hstart p hmem
      · cases hout _ hmem
  | streaming h h' ho hout =>
      refine .before (.inr h') (fun p hmem => ?_) (fun hmem => ?_) hM'
      · rcases List.mem_append.mp hmem with hmem | hmem
        · exact hstart p hmem
        · cases hout _ hmem
      · rcases List.mem_append.mp hmem with hmem | hmem
        · exact hstop hmem
        · cases hout _ hmem
  | answered x payload h ho h' hout =>
      refine .onAir (.inl (by rw [h']; rfl)) ?_ hM'
      rw [hout]
      rcases startAnswered_events s payload with ⟨hev, -⟩ | ⟨hev, -⟩ | ⟨hev, -⟩ <;>
        simp [hev, hstop]
  | streamFailed h h' ho hout =>
      refine .gaveUp h' fun p hmem => ?_
      rcases List.mem_append.mp hmem with hmem | hmem
      · exact hstart p hmem
      · rcases hout _ hmem with h | h <;> cases h
  | wentLive p h => rw [h] at ht; simp [Thread.region] at ht
  | missedLive p h => rw [h] at ht; simp [Thread.region] at ht
  | looping h => rw [h] at ht; simp at ht
  | loopStopped h => rw [h] at ht; simp [Thread.region] at ht
  | loopEnded h => rw [h] at ht; simp at ht
  | stopped h => rw [h] at ht; simp at ht
  | ended h => rw [h] at ht; simp at ht

/-- **Step lemma, from the answer to the last request.** -/
theorem StopPhase.of_onAir
    (ht : s.thread.region = .goingLive ∨ s.thread.region = .looping ∨ s.thread.region = .stopping)
    (hstop : .stopBroadcast ∉ l) (hM : M) (hmoves : RegionMoves s o s' out) :
    StopPhase (M ∧ StopHandled s (.thread o)) (l ++ out) s'.thread := by
  cases hmoves with
  | wentLive p h hstate h' hout =>
      exact .onAir (.inr (.inl h')) (by simp [hout, hstop])
        ⟨hM, stopHandled_of_region (by rw [h]; exact fun hr => nomatch hr)⟩
  | missedLive p h hstate h' hout =>
      exact .onAir (.inr (.inr h')) (by simp [hout, hstop])
        ⟨hM, stopHandled_of_region (by rw [h]; exact fun hr => nomatch hr)⟩
  | looping h h' ho hafter hout =>
      refine .onAir (.inr (.inl h')) (fun hmem => ?_) ⟨hM, fun x _ ha => ?_, fun _ hs => ?_⟩
      · rcases List.mem_append.mp hmem with hmem | hmem
        · exact hstop hmem
        · rcases hout _ hmem with h | h | h <;> cases h
      · exact ho (Action.thread.inj ha)
      · exact absurd hs hafter
  | loopStopped h hstate h' hout =>
      refine .onAir (.inr (.inr h')) (by simp [hout, hstop])
        ⟨hM, fun x hs => ?_, fun _ _ _ => hstate⟩
      rw [h] at hs
      cases hs
  | loopEnded h h' hwhy hout =>
      have hstop' : .stopBroadcast ∉ l ++ out := by
        intro hmem
        rcases List.mem_append.mp hmem with hmem | hmem
        · exact hstop hmem
        · rcases hout _ hmem with h | h <;> cases h
      -- the two exits without `StopBroadcast`, and the end of the process
      rcases hwhy with ⟨hs, hstate⟩ | ⟨x, hs, rfl⟩ | hs
      · exact .left h' (iff_of_false hstop' fun hM' => hstate (hM'.2.2 o hs rfl))
      · exact .left h' (iff_of_false hstop' fun hM' => hM'.2.1 x hs rfl)
      · rw [hs]
        exact .died
  | stopped h h' hout =>
      exact .left h' (iff_of_true (by simp [hout]) ⟨hM, stopHandled_of_region (by rw [h]; decide)⟩)
  | starting h => rw [h] at ht; simp at ht
  | started h => rw [h] at ht; simp at ht
  | startFailed h => rw [h] at ht; simp at ht
  | streaming h => rw [h] at ht; simp at ht
  | answered x p h => rw [h] at ht; simp [Thread.region] at ht
  | streamFailed h => rw [h] at ht; simp at ht
  | ended h => rw [h] at ht; simp at ht

/-- **Step lemma.** -/
theorem StopPhase.threadMoves (h : StopPhase M l s.thread) (hmoves : ThreadMoves s o s' out) :
    StopPhase (M ∧ StopHandled s (.thread o)) (l ++ out) s'.thread := by
  have hregion := hmoves.regionMoves
  have hrunning := hmoves.running
  generalize ht : s.thread = t at h hrunning
  cases h with
  | before hr hstart hstop hM => exact .of_before (by rwa [ht]) hstart hstop hM hregion
  | onAir hr hstop hM => exact .of_onAir (by rwa [ht]) hstop hM hregion
  | gaveUp hr hstart =>
      obtain ⟨h', rfl⟩ := hregion.of_ended (by rwa [ht])
      exact .gaveUp h' (by simpa using hstart)
  | died => cases hrunning
  | left hr hiff =>
      obtain ⟨h', rfl⟩ := hregion.of_ended (by rwa [ht])
      refine .left h' ?_
      rw [List.append_nil, hiff, and_iff_left (stopHandled_of_region (by rw [ht, hr]; decide))]

end

/-! ## Every run -/

section

variable {title gameId : Bytes} {rating : Rating} {tr : List (World × Action)} {es : List Event}
  {s : World}

theorem Runs.stopPhase (h : Runs title rating gameId tr es s) :
    StopPhase (Machine.Meets StopHandled tr) (threadEvents es) s.thread := by
  refine h.thread_induction (I := fun tr l t => StopPhase (Machine.Meets StopHandled tr) l t)
    ?_ ?_ ?_ ?_
  · exact .before (.inl rfl) (by simp) (by simp) (Machine.meets_nil _)
  · intro tr l s a hI ha
    rw [Machine.meets_snoc, and_iff_left (stopHandled_of_other ha)]
    exact hI.create
  · intro tr l s a hI ha
    rwa [Machine.meets_snoc, and_iff_left (stopHandled_of_other ha)]
  · intro tr l s o s' out hI hmoves
    rw [Machine.meets_snoc]
    exact hI.threadMoves hmoves

/-- The thread never sends `StopBroadcast` before `StartBroadcast`. -/
theorem Runs.stopBroadcast_last (h : Runs title rating gameId tr es s) :
    (threadEvents es).Pairwise fun e e' => e = .stopBroadcast → ∀ p, e' ≠ .startBroadcast p := by
  refine (h.thread_induction (I := fun _ l t => (.stopBroadcast ∈ l → t.region = .ended) ∧
    l.Pairwise fun e e' => e = .stopBroadcast → ∀ p, e' ≠ .startBroadcast p) ?_ ?_ ?_ ?_).2
  · exact ⟨by simp, .nil⟩
  · exact fun _ l _ _ hI _ => ⟨fun hmem => (nomatch hI.1 hmem), hI.2⟩
  · exact fun _ _ _ _ hI _ => hI
  · rintro - l s o s' out ⟨hended, hlast⟩ hmoves
    have hregion := hmoves.regionMoves
    by_cases hmem : .stopBroadcast ∈ l
    · obtain ⟨h', rfl⟩ := hregion.of_ended (hended hmem)
      exact ⟨fun _ => h', by rwa [List.append_nil]⟩
    · refine ⟨fun hmem' => ?_, List.pairwise_append.mpr ⟨hlast, ?_, ?_⟩⟩
      · exact (hregion.of_stopBroadcast ((List.mem_append.mp hmem').resolve_left hmem)).1
      · by_cases hmem' : .stopBroadcast ∈ out
        · rw [(hregion.of_stopBroadcast hmem').2]
          exact List.pairwise_singleton _ _
        · exact List.pairwise_of_forall_mem_list fun e he e' _ hstop =>
            absurd (hstop ▸ he) hmem'
      · exact fun e he e' _ hstop => absurd (hstop ▸ he) hmem

/-- **The stage is taken off the air.**  Where the `StartBroadcast` mutation has been
answered, successfully or not, and `stop` has returned, a `StopBroadcast` mutation
has been sent in between exactly if every step of the run meets the condition. -/
theorem stopBroadcast_mem_iff {l₁ l₂ l₃ : List Event} {p : Option StartPayload}
    (h : Runs title rating gameId tr es s)
    (hes : es = l₁ ++ .startBroadcast p :: l₂ ++ .stopReturned :: l₃) :
    .stopBroadcast ∈ l₂ ↔ Machine.Meets StopHandled tr := by
  have hstart : .startBroadcast p ∈ es := by simp [hes]
  have hreturned : .stopReturned ∈ es := by simp [hes]
  -- the thread sends it in no other part of the history
  have hmem : .stopBroadcast ∈ l₂ ↔ .stopBroadcast ∈ threadEvents es := by
    rw [mem_threadEvents_iff rfl]
    refine ⟨fun hmem => by simp [hes, hmem], fun hmem => ?_⟩
    have hlast := h.stopBroadcast_last
    have hquiet := h.quiet_after_stop
    rw [hes, threadEvents, List.filter_append, List.filter_append, List.filter_cons_of_pos rfl,
      List.append_assoc, List.pairwise_append] at hlast
    rw [hes, List.pairwise_append, List.pairwise_cons] at hquiet
    simp only [hes, List.mem_append, List.mem_cons, reduceCtorEq, false_or] at hmem
    rcases hmem with (hmem | hmem) | hmem
    · refine absurd rfl (hlast.2.2 .stopBroadcast ?_ (.startBroadcast p) (by simp) rfl p)
      exact List.mem_filter.mpr ⟨hmem, rfl⟩
    · exact hmem
    · cases hquiet.2.1.1 _ hmem rfl
  rw [hmem]
  -- `stop` has returned, so the thread is through, and its last phase tells
  have hjoin : s.thread = .finished ∨ s.thread = .notCreated := by
    simpa [World.canJoin] using h.joinInv.joined (.inr (h.stopCall_of_stopReturned hreturned))
  have hstart' := (mem_threadEvents_iff rfl).mpr hstart
  have hphase := h.stopPhase
  generalize s.thread = t at hjoin hphase
  cases hphase with
  | before ht hnot hstop hM => exact absurd hstart' (hnot p)
  | onAir ht => rcases hjoin with rfl | rfl <;> simp [Thread.region] at ht
  | gaveUp ht hnot => exact absurd hstart' (hnot p)
  | died => simp at hjoin
  | left ht hiff => exact hiff

end

/-! ## Two broadcasts that go live -/

/-- The steps of a broadcast that is stopped while it is live. -/
def stoppedActions : List Action :=
  liveActions ++ [.stop] ++ List.replicate 4 (.thread .success) ++ [.stop, .stop]

/-- The steps of a broadcast whose feed update fails, and that is then stopped. -/
def updateFailedActions : List Action :=
  liveActions ++ [.thread .success, .thread (.heartbeat (some .good)), .thread .success,
    .thread .success, .thread .failure, .thread .success, .stop, .stop, .stop]

/-- A broadcast that is stopped while it is live sends its `StopBroadcast`. -/
theorem stopBroadcast_mem_iff_stopped :
    ∃ tr es s, Runs [] .none [] tr es s ∧ tr.map Prod.snd = stoppedActions ∧
      es = [.startedCallback] ++ .startBroadcast (some { hasError := false, live := true }) ::
        [.wentLive, .stopStored, .stopBroadcast, .joined] ++ .stopReturned :: [] ∧
      Machine.Meets StopHandled tr := by
  obtain ⟨tr, es, s, hrun, htr, hes⟩ : ∃ tr es s, Runs [] .none [] tr es s ∧
      tr.map Prod.snd = stoppedActions ∧
      es = [.startedCallback] ++ .startBroadcast (some { hasError := false, live := true }) ::
        [.wentLive, .stopStored, .stopBroadcast, .joined] ++ .stopReturned :: [] :=
    exists_runs_of_exec ⟨_, _, rfl, rfl⟩
  exact ⟨tr, es, s, hrun, htr, hes, (stopBroadcast_mem_iff hrun hes).mp (by simp)⟩

/-- When `stop` returns after a failed feed update, no `StopBroadcast` has been sent. -/
theorem not_stopBroadcast_mem_updateFailed :
    ∃ tr es s, Runs [] .none [] tr es s ∧ tr.map Prod.snd = updateFailedActions ∧
      .startBroadcast (some { hasError := false, live := true }) ∈ es ∧ .stopReturned ∈ es ∧
      .stopBroadcast ∉ es := by
  obtain ⟨tr, es, s, hrun, htr, hes⟩ : ∃ tr es s, Runs [] .none [] tr es s ∧
      tr.map Prod.snd = updateFailedActions ∧
      es = [.startedCallback, .startBroadcast (some { hasError := false, live := true }), .wentLive,
        .heartbeatIteration, .heartbeat, .failureReported .broadcastThread .broadcastFailed,
        .stopStored, .joined, .stopReturned] :=
    exists_runs_of_exec ⟨_, _, rfl, rfl⟩
  exact ⟨tr, es, s, hrun, htr, by simp [hes], by simp [hes], by simp [hes]⟩

end Caff
