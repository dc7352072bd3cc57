/-
# Going live

`startHeartbeat` puts the stage live and then moves to `State::Live`.  The branch
on an unsuccessful answer reports the failure but does not return, and it logs
`startPayload->error` even where the payload is only unsuccessful for not being
live.  So the broadcast goes live on the client after a failed mutation, unless
`stop` comes first, and an answer without an error and without a live stage leads
to an access to an absent error.
-/
import Caffeine.BroadcastRegions

namespace Caff

open Publication (Stamped)

/-! ## The property and its condition -/

/-- What is asked of a history with an answer to `StartBroadcast`: the broadcast goes
live only on a successful one; on any other, the thread reports one failure,
enters no heartbeat iteration and accesses no absent error. -/
def LawfulStart (es : List Event) : Prop :=
  ∀ payload, .startBroadcast payload ∈ es →
    (.wentLive ∈ es → startSucceeded payload = true) ∧
    (startSucceeded payload = false →
      es.countP Event.isThreadFailure = 1 ∧ .heartbeatIteration ∉ es ∧
        .undefinedErrorAccess ∉ es)

/-- The condition on a step: the answer to `StartBroadcast` is not one without an
error and without a live stage, and the transition to `Live` after an unsuccessful
answer finds that `stop` has been called. -/
def FailureHandled (s : World) (a : Action) : Prop :=
  (∀ x payload, s.thread = .startBroadcast x → a = .thread (.start payload) →
    payload ≠ some ⟨false, false⟩) ∧
  (∀ payload o, s.thread = .goLive payload → a = .thread o →
    startSucceeded payload = true ∨ s.state ≠ .streaming)

/-! ## The history of the thread, with the condition met so far or not -/

/-- The regions after the transition to `Live`. -/
def Region.after (r : Region) : Prop := r = .looping ∨ r = .stopping ∨ r = .ended

inductive StartPhase (M : Prop) : List Event → Thread → Prop
  | before {l : List Event} {t : Thread} (ht : t.region = .starting ∨ t.region = .streaming)
      (hl : ∀ e ∈ l, e = .startedCallback ∨ e = .badBroadcastIdAccess) (hM : M) :
      StartPhase M l t
  | gaveUp {l : List Event} {t : Thread} (ht : t.region = .ended)
      (hl : ∀ payload, .startBroadcast payload ∉ l) (hM : M) : StartPhase M l t
  | answered {l : List Event} {p : Option StartPayload}
      (hmem : ∀ q, .startBroadcast q ∈ l ↔ q = p) (hlive : .wentLive ∉ l)
      (hloop : .heartbeatIteration ∉ l)
      (hcount : startSucceeded p = false → l.countP Event.isThreadFailure = 1)
      (hundefined : .undefinedErrorAccess ∈ l ↔ p = some ⟨false, false⟩)
      (hM : M ↔ p ≠ some ⟨false, false⟩) : StartPhase M l (.goLive p)
  | succeeded {l : List Event} {t : Thread} (p : Option StartPayload) (ht : t.region.after)
      (hmem : ∀ q, .startBroadcast q ∈ l ↔ q = p) (hp : startSucceeded p = true) (hM : M) :
      StartPhase M l t
  | broken {l : List Event} {t : Thread} (p : Option StartPayload) (ht : t.region.after)
      (hmem : .startBroadcast p ∈ l) (hp : startSucceeded p = false)
      (hbad : .undefinedErrorAccess ∈ l ∨ .wentLive ∈ l) (hM : ¬ M) : StartPhase M l t
  | missed {l : List Event} {t : Thread} (p : Option StartPayload)
      (ht : t.region = .stopping ∨ t.region = .ended)
      (hmem : ∀ q, .startBroadcast q ∈ l ↔ q = p) (hlive : .wentLive ∉ l)
      (hloop : .heartbeatIteration ∉ l) (hcount : l.countP Event.isThreadFailure = 1)
      (hundefined : .undefinedErrorAccess ∉ l) (hM : M) : StartPhase M l t

/-- In every phase the property holds exactly if the condition has been met. -/
theorem StartPhase.lawful_iff {M : Prop} {l : List Event} {t : Thread}
    (h : StartPhase M l t) : LawfulStart l ↔ M := by
  cases h with
  | before ht hl hM =>
      refine iff_of_true (fun payload hmem => ?_) hM
      rcases hl _ hmem with h | h <;> cases h
  | gaveUp ht hl hM => exact iff_of_true (fun payload hmem => absurd hmem (hl payload)) hM
  | answered hmem hlive hloop hcount hundefined hM =>
      rename_i p
      rw [hM]
      constructor
      · intro hlawful hp
        have := (hlawful p ((hmem p).mpr rfl)).2 (by rw [hp]; rfl)
        exact this.2.2 (hundefined.mpr hp)
      · intro hp payload hq
        rw [(hmem payload).mp hq]
        exact ⟨fun h => absurd h hlive, fun hfail =>
          ⟨hcount hfail, hloop, fun h => hp (hundefined.mp h)⟩⟩
  | succeeded p ht hmem hp hM =>
      refine iff_of_true (fun payload hq => ?_) hM
      rw [(hmem payload).mp hq]
      exact ⟨fun _ => hp, fun hfail => by rw [hp] at hfail; cases hfail⟩
  | broken p ht hmem hp hbad hM =>
      -- one of the two events a failure must not lead to is there
      refine iff_of_false (fun hlawful => ?_) hM
      rcases hbad with hbad | hbad
      · exact ((hlawful p hmem).2 hp).2.2 hbad
      · rw [(hlawful p hmem).1 hbad] at hp
        cases hp
  | missed p ht hmem hlive hloop hcount hundefined hM =>
      exact iff_of_true (fun payload _ => ⟨fun h => absurd h hlive, fun _ =>
        ⟨hcount, hloop, hundefined⟩⟩) hM

section

variable {s s' : World} {o : Outcome} {out l : List Event} {M : Prop}

/-- The condition is about two steps only. -/
theorem failureHandled_of_ne (hstart : ∀ x, s.thread = .startBroadcast x → ∀ p, o ≠ .start p)
    (hlive : ∀ p, s.thread ≠ .goLive p) : FailureHandled s (.thread o) := by
  constructor
  · intro x payload hs ho
    rw [Action.thread.injEq] at ho
    exact absurd ho (hstart x hs payload)
  · intro payload o' hs
    exact absurd hs (hlive payload)

theorem failureHandled_of_region (h : s.thread.region = .starting ∨ s.thread.region.after) :
    FailureHandled s (.thread o) := by
  refine failureHandled_of_ne (fun x hs => ?_) fun p hs => ?_
  all_goals
    rw [hs] at h
    simp [Thread.region, Region.after] at h

theorem failureHandled_startBroadcast_iff {x : Stamped Bytes} {payload : Option StartPayload}
    (h : s.thread = .startBroadcast x) :
    FailureHandled s (.thread (.start payload)) ↔ payload ≠ some ⟨false, false⟩ := by
  constructor
  · exact fun hhandled => hhandled.1 x payload h rfl
  · refine fun hp => ⟨fun x' q hs hq => ?_, fun q o' hs => ?_⟩
    · rw [Action.thread.injEq, Outcome.start.injEq] at hq
      rwa [← hq]
    · rw [h] at hs
      cases hs

theorem failureHandled_goLive_iff {p : Option StartPayload} (h : s.thread = .goLive p) :
    FailureHandled s (.thread o) ↔ startSucceeded p = true ∨ s.state ≠ .streaming := by
  constructor
  · exact fun hhandled => hhandled.2 p o h rfl
  · refine fun hp => ⟨fun x q hs => ?_, fun q o' hs _ => ?_⟩
    · rw [h] at hs
      cases hs
    · rw [h, Thread.goLive.injEq] at hs
      rwa [← hs]

/-- Nor is it about the steps of others. -/
theorem failureHandled_of_other {a : Action} (ha : ∀ o, a ≠ .thread o) : FailureHandled s a :=
  ⟨fun _ p _ h => absurd h (ha (.start p)), fun _ o _ h => absurd h (ha o)⟩

/-- The creation of the thread. -/
theorem StartPhase.create (h : StartPhase M l .notCreated) :
    StartPhase M l (.stage .setupSubscription) := by
  cases h with
  | before ht hl hM => exact .before (.inl rfl) hl hM
  | gaveUp ht hl hM => cases ht
  | succeeded p ht hmem hp hM => simp [Thread.region, Region.after] at ht
  | broken p ht hmem hp hbad hM => simp [Thread.region, Region.after] at ht
  | missed p ht => simp [Thread.region] at ht

/-- The answer comes: it is logged and reported, whatever the thread does next. -/
theorem StartPhase.of_startAnswered {x : Stamped Bytes} {payload : Option StartPayload}
    (hl : ∀ e ∈ l, e = .startedCallback ∨ e = .badBroadcastIdAccess) (hM : M)
    (h : s.thread = .startBroadcast x) :
    StartPhase (M ∧ FailureHandled s (.thread (.start payload)))
      (l ++ (s.startAnswered payload).2) (.goLive payload) := by
  have hM' : (M ∧ FailureHandled s (.thread (.start payload))) ↔ payload ≠ some ⟨false, false⟩ := by
    rw [and_iff_right hM, failureHandled_startBroadcast_iff h]
  -- nothing that the phase counts has been seen before
  have hevent : ∀ e, e.isThreadFailure = true ∨ (∃ q, e = .startBroadcast q) ∨ e = .wentLive ∨
      e = .heartbeatIteration ∨ e = .undefinedErrorAccess → e ∉ l := by
    rintro e he hmem
    rcases hl e hmem with rfl | rfl <;> simp [Event.isThreadFailure] at he
  have hcountl : l.countP Event.isThreadFailure = 0 :=
    List.countP_eq_zero.mpr fun e he hf => hevent e (.inl hf) he
  have hsl : ∀ q, Event.startBroadcast q ∉ l := fun q => hevent _ (.inr (.inl ⟨q, rfl⟩))
  have hwl : Event.wentLive ∉ l := hevent _ (by simp)
  have hil : Event.heartbeatIteration ∉ l := hevent _ (by simp)
  have hul : Event.undefinedErrorAccess ∉ l := hevent _ (by simp)
  rcases startAnswered_events s payload with ⟨hev, hp⟩ | ⟨hev, hp, hne⟩ | ⟨hev, hp⟩
  · -- a success
    rw [hev]
    refine .answered ?_ ?_ ?_ ?_ ?_ hM'
    · simp [hsl]
    · simp [hwl]
    · simp [hil]
    · simp [hp]
    · simp only [List.mem_append, hul, List.mem_singleton, reduceCtorEq, or_self, false_iff]
      rintro rfl
      cases hp
  · -- a failure that can be logged
    rw [hev]
    refine .answered ?_ ?_ ?_ ?_ ?_ hM'
    · simp [hsl]
    · simp [hwl]
    · simp [hil]
    · simp [hcountl, Event.isThreadFailure]
    · simp [hul, hne]
  · -- a failure without an error to log
    rw [hev]
    refine .answered ?_ ?_ ?_ ?_ ?_ hM'
    · simp [hsl]
    · simp [hwl]
    · simp [hil]
    · simp [hcountl, Event.isThreadFailure]
    · simp [hp]

/-- **Step lemma, before the answer.** -/
theorem StartPhase.of_before (ht : s.thread.region = .starting ∨ s.thread.region = .streaming)
    (hl : ∀ e ∈ l, e = .startedCallback ∨ e = .badBroadcastIdAccess) (hM : M)
    (hmoves : RegionMoves s o s' out) :
    StartPhase (M ∧ FailureHandled s (.thread o)) (l ++ out) s'.thread := by
  cases hmoves with
  | starting h h' hout =>
      refine .before (.inl h') ?_ ⟨hM, failureHandled_of_region (.inl h)⟩
      rwa [hout, List.append_nil]
  | started h h' hout =>
      refine .before (.inr h') ?_ ⟨hM, failureHandled_of_region (.inl h)⟩
      intro e he
      rw [hout] at he
      rcases List.mem_append.mp he with he | he
      · exact hl e he
      · exact .inl (List.mem_singleton.mp he)
  | startFailed h h' hout =>
      refine .gaveUp h' ?_ ⟨hM, failureHandled_of_region (.inl h)⟩
      intro payload hmem
      rcases List.mem_append.mp hmem with hmem | hmem
      · rcases hl _ hmem with h | h <;> cases h
      · cases hout _ hmem
  | streaming h h' ho hout =>
      refine .before (.inr h') (fun e he => ?_) ⟨hM, failureHandled_of_ne (fun x _ p => ?_) ?_⟩
      · rcases List.mem_append.mp he with he | he
        · exact hl e he
        · exact .inr (hout e he)
      · rw [ho]
        simp
      · intro p hs
        rw [hs] at h
        cases h
  | answered x payload h ho h' hout =>
      rw [ho, hout, h']
      exact .of_startAnswered hl hM h
  | streamFailed h h' ho hout =>
      refine .gaveUp h' (fun payload hmem => ?_)
        ⟨hM, failureHandled_of_ne (fun _ _ p => ho p) fun p hs => ?_⟩
      · rcases List.mem_append.mp hmem with hmem | hmem
        · rcases hl _ hmem with h | h <;> cases h
        · rcases hout _ hmem with h | h <;> cases h
      · rw [hs] at h
        cases h
  | wentLive p h => rw [h] at ht; simp [Thread.region] at ht
  | missedLive p h => rw [h] at ht; simp [Thread.region] at ht
  | looping h => rw [h] at ht; simp at ht
  | loopStopped h => rw [h] at ht; simp [Thread.region] at ht
  | loopEnded h => rw [h] at ht; simp at ht
  | stopped h => rw [h] at ht; simp at ht
  | ended h => rw [h] at ht; simp at ht

/-- After the transition to `Live` the thread neither goes live nor sends
`StartBroadcast` again. -/
theorem RegionMoves.of_after (ht : s.thread.region.after) (hmoves : RegionMoves s o s' out) :
    s'.thread.region.after ∧ .wentLive ∉ out ∧ ∀ q, .startBroadcast q ∉ out := by
  cases hmoves with
  | looping h h' ho hafter hout =>
      refine ⟨.inl h', fun he => ?_, fun q he => ?_⟩
      · simpa [Event.isThreadFailure] using hout _ he
      · simpa [Event.isThreadFailure] using hout _ he
  | loopStopped h hstate h' hout =>
      rw [hout]
      exact ⟨.inr (.inl h'), by simp, by simp⟩
  | loopEnded h h' hwhy hout =>
      refine ⟨.inr (.inr h'), fun he => ?_, fun q he => ?_⟩
      · simpa [Event.isThreadFailure] using hout _ he
      · simpa [Event.isThreadFailure] using hout _ he
  | stopped h h' hout =>
      rw [hout]
      exact ⟨.inr (.inr h'), by simp, by simp⟩
  | ended h h' hout =>
      rw [hout]
      exact ⟨.inr (.inr h'), by simp, by simp⟩
  | starting h => rw [h] at ht; simp [Region.after] at ht
  | started h => rw [h] at ht; simp [Region.after] at ht
  | startFailed h => rw [h] at ht; simp [Region.after] at ht
  | streaming h => rw [h] at ht; simp [Region.after] at ht
  | answered x p h => rw [h] at ht; simp [Thread.region, Region.after] at ht
  | streamFailed h => rw [h] at ht; simp [Region.after] at ht
  | wentLive p h => rw [h] at ht; simp [Thread.region, Region.after] at ht
  | missedLive p h => rw [h] at ht; simp [Thread.region, Region.after] at ht

/-- Past the loop only the `StopBroadcast` mutation is left. -/
theorem RegionMoves.of_stopping (ht : s.thread.region = .stopping ∨ s.thread.region = .ended)
    (hmoves : RegionMoves s o s' out) :
    s'.thread.region = .ended ∧ (out = [] ∨ out = [.stopBroadcast]) := by
  cases hmoves with
  | stopped h h' hout => exact ⟨h', .inr hout⟩
  | ended h h' hout => exact ⟨h', .inl hout⟩
  | starting h => rw [h] at ht; simp at ht
  | started h => rw [h] at ht; simp at ht
  | startFailed h => rw [h] at ht; simp at ht
  | streaming h => rw [h] at ht; simp at ht
  | answered x p h => rw [h] at ht; simp [Thread.region] at ht
  | streamFailed h => rw [h] at ht; simp at ht
  | wentLive p h => rw [h] at ht; simp [Thread.region] at ht
  | missedLive p h => rw [h] at ht; simp [Thread.region] at ht
  | looping h => rw [h] at ht; simp at ht
  | loopStopped h => rw [h] at ht; simp [Thread.region] at ht
  | loopEnded h => rw [h] at ht; simp at ht

/-- The transition to `Live` is made or missed. -/
theorem RegionMoves.of_goLive {p : Option StartPayload} (hs : s.thread = .goLive p)
    (hmoves : RegionMoves s o s' out) :
    (s.state = .streaming ∧ s'.thread.region = .looping ∧ out = [.wentLive]) ∨
      (s.state ≠ .streaming ∧ s'.thread.region = .stopping ∧ out = []) := by
  cases hmoves with
  | wentLive q h hstate h' hout => exact .inl ⟨hstate, h', hout⟩
  | missedLive q h hstate h' hout => exact .inr ⟨hstate, h', hout⟩
  | answered x q h => rw [hs] at h; cases h
  | loopStopped h => rw [hs] at h; cases h
  | _ h => rw [hs] at h; cases h

/-- **Step lemma.** -/
theorem StartPhase.threadMoves (h : StartPhase M l s.thread) (hmoves : ThreadMoves s o s' out) :
    StartPhase (M ∧ FailureHandled s (.thread o)) (l ++ out) s'.thread := by
  have hregion := hmoves.regionMoves
  generalize ht : s.thread = t at h
  cases h with
  | before hr hl hM => exact .of_before (by rwa [ht]) hl hM hregion
  | gaveUp hr hl hM =>
      obtain ⟨h', hout⟩ := hregion.of_stopping (.inr (by rwa [ht]))
      refine .gaveUp h' (fun payload hmem => ?_)
        ⟨hM, failureHandled_of_region (.inr (.inr (.inr (by rwa [ht]))))⟩
      rcases List.mem_append.mp hmem with hmem | hmem
      · exact hl payload hmem
      · rcases hout with rfl | rfl <;> simp at hmem
  | answered hmem hlive hloop hcount hundefined hM =>
      rename_i p
      have hhandled := failureHandled_goLive_iff (o := o) ht
      rcases hregion.of_goLive ht with ⟨hstate, h', rfl⟩ | ⟨hstate, h', rfl⟩
      · -- the broadcast goes live, also after a failure
        rcases hp : startSucceeded p with _ | _
        · refine .broken p (.inl h') (by simp [hmem]) hp (.inr (by simp)) ?_
          rw [hhandled, hp]
          simp [hstate]
        · refine .succeeded p (.inl h') (by simp [hmem]) hp ⟨hM.mpr ?_, hhandled.mpr (.inl hp)⟩
          rintro rfl
          cases hp
      · -- `stop` has come first
        by_cases hbad : p = some ⟨false, false⟩
        · refine .broken p (.inr (.inl h')) (by simp [hmem]) (by rw [hbad]; rfl)
            (.inl (by simpa using hundefined.mpr hbad)) ?_
          rintro ⟨hM', -⟩
          exact hM.mp hM' hbad
        · have hM' : M ∧ FailureHandled s (.thread o) :=
            ⟨hM.mpr hbad, hhandled.mpr (.inr hstate)⟩
          rcases hp : startSucceeded p with _ | _
          · refine .missed p (.inl h') (by simp [hmem]) (by simp [hlive]) (by simp [hloop])
              (by simp [hcount hp]) ?_ hM'
            simpa using fun h => hbad (hundefined.mp h)
          · exact .succeeded p (.inr (.inl h')) (by simp [hmem]) hp hM'
  | succeeded p hr hmem hp hM =>
      obtain ⟨h', hwl, hsb⟩ := hregion.of_after (by rwa [ht])
      exact .succeeded p h' (by simp [hmem, hsb]) hp
        ⟨hM, failureHandled_of_region (.inr (by rwa [ht]))⟩
  | broken p hr hmem hp hbad hM =>
      obtain ⟨h', hwl, hsb⟩ := hregion.of_after (by rwa [ht])
      refine .broken p h' (List.mem_append_left _ hmem) hp ?_ fun h => hM h.1
      exact hbad.imp (List.mem_append_left _) (List.mem_append_left _)
  | missed p hr hmem hlive hloop hcount hundefined hM =>
      obtain ⟨h', hout⟩ := hregion.of_stopping (by rwa [ht])
      have hM' : M ∧ FailureHandled s (.thread o) := by
        refine ⟨hM, failureHandled_of_region (.inr (.inr ?_))⟩
        rwa [ht]
      rcases hout with rfl | rfl
      · exact .missed p (.inr h') (by simpa using hmem) (by simpa using hlive)
          (by simpa using hloop) (by simpa using hcount) (by simpa using hundefined) hM'
      · exact .missed p (.inr h') (by simpa using hmem) (by simpa using hlive)
          (by simpa using hloop) (by simpa [Event.isThreadFailure] using hcount)
          (by simpa using hundefined) hM'

end

/-! ## Every run -/

section

variable {title gameId : Bytes} {rating : Rating} {tr : List (World × Action)} {es : List Event}
  {s : World}

/-- `LawfulStart` is about the events of the thread. -/
theorem lawfulStart_threadEvents_iff : LawfulStart (threadEvents es) ↔ LawfulStart es := by
  have hcount : (threadEvents es).countP Event.isThreadFailure =
      es.countP Event.isThreadFailure := by
    rw [threadEvents, List.countP_filter]
    congr 1
    funext e
    rcases e with ⟨reporter, -⟩ | _ | _ | _ | _ | _ | _ | _ | _ | _ | _ | _ | _ <;> try rfl
    cases reporter <;> rfl
  unfold LawfulStart
  rw [hcount, mem_threadEvents_iff rfl, mem_threadEvents_iff rfl, mem_threadEvents_iff rfl]
  apply forall_congr'
  intro payload
  rw [mem_threadEvents_iff rfl]

/-- **Going live.**  In every run of a broadcast, whatever the answer to
`StartBroadcast` and whenever `stop` is called, the answer is dealt with lawfully
exactly if every step meets the condition. -/
theorem lawfulStart_iff (h : Runs title rating gameId tr es s) :
    LawfulStart es ↔ Machine.Meets FailureHandled tr := by
  have hphase : StartPhase (Machine.Meets FailureHandled tr) (threadEvents es) s.thread := by
    refine h.thread_induction
      (I := fun tr l t => StartPhase (Machine.Meets FailureHandled tr) l t) ?_ ?_ ?_ ?_
    · exact .before (.inl rfl) (by simp) (Machine.meets_nil _)
    · intro tr l s a hI ha
      rw [Machine.meets_snoc, and_iff_left (failureHandled_of_other ha)]
      exact hI.create
    · intro tr l s a hI ha
      rwa [Machine.meets_snoc, and_iff_left (failureHandled_of_other ha)]
    · intro tr l s o s' out hI hmoves
      rw [Machine.meets_snoc]
      exact hI.threadMoves hmoves
  rw [← lawfulStart_threadEvents_iff]
  exact hphase.lawful_iff

end

/-! ## Two broadcasts whose `StartBroadcast` fails -/

/-- A broadcast that is stopped before it can go live meets the condition. -/
theorem lawfulStart_iff_stopped :
    ∃ tr es s, Runs [] .none [] tr es s ∧
      tr.map Prod.snd = startActions none ++ [.stop, .thread .success] ∧
      .startBroadcast none ∈ es ∧ Machine.Meets FailureHandled tr := by
  obtain ⟨tr, es, s, hrun, htr, hes⟩ :=
    exists_runs_of_exec (P := fun _ es => es = [.startedCallback, .startBroadcast none,
        .failureReported .broadcastThread .broadcastFailed, .stopStored])
      (l := startActions none ++ [.stop, .thread .success]) ⟨_, _, rfl, rfl⟩
  refine ⟨tr, es, s, hrun, htr, by simp [hes], (lawfulStart_iff hrun).mp ?_⟩
  rw [hes]
  intro payload hmem
  exact ⟨fun h => absurd h (by decide), fun _ => by decide⟩

/-- An answer without an error and without a live stage: the absent error is
accessed, and the broadcast goes live. -/
theorem not_lawfulStart_notLive :
    ∃ tr es s, Runs [] .none [] tr es s ∧
      tr.map Prod.snd = startActions (some { hasError := false, live := false }) ++
        [.thread .success] ∧
      s.state = .live ∧ .undefinedErrorAccess ∈ es ∧ ¬ LawfulStart es := by
  obtain ⟨tr, es, s, hrun, htr, hlive, hes⟩ :=
    exists_runs_of_exec (P := fun s es => s.state = .live ∧ es = [.startedCallback,
        .startBroadcast (some ⟨false, false⟩), .undefinedErrorAccess,
        .failureReported .broadcastThread .broadcastFailed, .wentLive])
      (l := startActions (some { hasError := false, live := false }) ++ [.thread .success])
      ⟨_, _, rfl, rfl, rfl⟩
  refine ⟨tr, es, s, hrun, htr, hlive, by simp [hes], fun hlawful => ?_⟩
  have hbad := (hlawful (some ⟨false, false⟩) (by simp [hes])).1 (by simp [hes])
  revert hbad
  decide

end Caff
