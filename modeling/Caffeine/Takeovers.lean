/-
# Updates that come before the broadcast is online

The message handler looks at an update when it comes, against the state of that moment,
and never again.  So an update without our feed that comes while the broadcast is still
`Starting`, or one of a stage that is not live while it is still `Streaming`, is passed
over, and stays passed over when the state gets there.  Apart from that no takeover is
missed.

The first part connects the handler to the broadcast: the states of a broadcast change as
`State.canBecome` allows, and `World.stageUpdate` is the handler that nothing interrupts.
-/
import Caffeine.StageUpdates

namespace Caff

/-! ## The handler and the broadcast -/

/-- The changes of the state in `Broadcast`. -/
def State.canBecome : State → State → Bool
  | .offline, .starting => true
  | .starting, .streaming => true
  | .streaming, .live => true
  | .stopping, .offline => true
  | _, .stopping => true
  | _, _ => false

/-- A step of the broadcast keeps its state or changes it so. -/
theorem StateMoves.canBecome {st st' : State} {a : Action} (h : StateMoves st a st') :
    st' = st ∨ st.canBecome st' = true := by
  cases h with
  | stay => exact .inl rfl
  | stop => cases st <;> exact .inr rfl
  | _ => exact .inr rfl

/-- **The states of a broadcast are states under which the handler runs.** -/
theorem exists_watchRuns_of_runs {title gameId : Bytes} {rating : Rating}
    {tr : List (World × Action)} {es : List Event} {s : World} (feedId : String)
    (h : Runs title rating gameId tr es s) :
    ∃ tr' es' w, WatchRuns State.canBecome feedId tr' es' w ∧ w.state = s.state := by
  refine (Machine.Run.invariant (I := fun s => StateInv s ∧
    ∃ tr' es' w, WatchRuns State.canBecome feedId tr' es' w ∧ w.state = s.state)
    ⟨stateInv_init title rating gameId, [], [], _, .refl _, rfl⟩ ?_ h).2
  rintro s a s' out ⟨hinv, tr', es', w, hrun, hw⟩ hs
  have hmoves := moves_of_step hs
  refine ⟨hinv.moves hmoves, ?_⟩
  rcases (hinv.stateMoves hmoves).canBecome with hstay | hbecome
  · exact ⟨tr', es', w, hrun, hw.trans hstay.symm⟩
  · have hstep : (watchMachine State.canBecome).step w (.state s'.state) =
        some ({ w with state := s'.state }, []) := by
      rw [← hw] at hbecome
      exact if_pos hbecome
    exact ⟨_, _, _, hrun.snoc hstep, rfl⟩

theorem World.subscriptionStep_subscriptionState (s : World) (feedIsOnStage live : Bool) :
    (s.subscriptionStep feedIsOnStage live).subscriptionState =
      s.subscriptionState.next feedIsOnStage live := by
  rw [World.subscriptionStep, SubscriptionState.next]
  by_cases hnone : s.subscriptionState = .none
  · cases feedIsOnStage <;> cases live <;> simp [hnone]
  · by_cases hopen : s.subscriptionState = .open <;> cases feedIsOnStage <;> cases live <;>
      simp [hnone, hopen]

theorem World.subscriptionStep_state (s : World) (feedIsOnStage live : Bool) :
    (s.subscriptionStep feedIsOnStage live).state = s.state := by
  rw [World.subscriptionStep]
  split <;> split <;> (try split) <;> (try split) <;> rfl

/-- What is left of the handler behind the test for the feed, in one state. -/
theorem exists_run_of_afterFeed (allowed : State → State → Bool) (w : Watch) (live : Bool)
    (hh : w.handler = Watch.afterFeed w.subscriptionState live) :
    ∃ tr es w', (watchMachine allowed).Run w tr es w' ∧ w'.handler = .idle ∧
      w'.subscriptionState = w.subscriptionState ∧
      (.failureReported .takeover ∈ es ↔
        live = false ∧ w.subscriptionState = .stageHasGoneLive ∧ w.state = .live) := by
  by_cases hc : live = false ∧ w.subscriptionState = .stageHasGoneLive
  · have htest : w.handler = .testLive := by rw [hh, Watch.afterFeed]; simp [hc.1, hc.2]
    by_cases hlive : w.state = .live
    · have hstep : (watchMachine allowed).step w .handler = some (w.report .takeover) := by
        simp [watchMachine, Watch.step, htest, hlive]
      exact ⟨_, _, _, .single hstep, rfl, rfl, by simp [hc, hlive]⟩
    · have hstep : (watchMachine allowed).step w .handler =
          some ({ w with handler := .idle }, []) := by
        simp [watchMachine, Watch.step, htest, hlive]
      exact ⟨_, _, _, .single hstep, rfl, rfl, by simp [hlive]⟩
  · have hidle : w.handler = .idle := by
      rw [hh, Watch.afterFeed]
      simpa using hc
    refine ⟨[], [], w, .refl w, hidle, rfl, ?_⟩
    simp only [List.not_mem_nil, false_iff, not_and]
    exact fun hl hg _ => hc ⟨hl, hg⟩

theorem World.isOnline_eq (s : World) : s.isOnline = s.state.isOnline := by
  rw [World.isOnline]
  cases s.state <;> rfl

theorem World.stageUpdate_subscriptionState (s : World) (feedIsOnStage live : Bool) :
    (s.stageUpdate feedIsOnStage live).1.subscriptionState =
      s.subscriptionState.next feedIsOnStage live := by
  rw [← s.subscriptionStep_subscriptionState feedIsOnStage live, World.stageUpdate]
  split
  · rfl
  · split <;> rfl

theorem World.takeover_mem_stageUpdate (s : World) (feedIsOnStage live : Bool) :
    .failureReported .subscription .takeover ∈ (s.stageUpdate feedIsOnStage live).2 ↔
      feedIsOnStage = false ∧ (s.subscriptionState.next feedIsOnStage live).appeared = true ∧
          s.state.isOnline = true ∨
        live = false ∧ s.subscriptionState.next feedIsOnStage live = .stageHasGoneLive ∧
          s.state = .live := by
  simp only [World.stageUpdate, World.isOnline_eq, s.subscriptionStep_state,
    s.subscriptionStep_subscriptionState]
  generalize hst : s.subscriptionState.next feedIsOnStage live = st
  by_cases hfeed : feedIsOnStage = false ∧ st.appeared = true ∧ s.state.isOnline = true
  · have hcond : (!feedIsOnStage && decide (st = .feedHasAppeared ∨ st = .stageHasGoneLive) &&
        s.state.isOnline) = true := by
      simpa [SubscriptionState.appeared, and_assoc] using hfeed
    rw [if_pos hcond]
    simp [hfeed]
  · have hcond : ¬ (!feedIsOnStage && decide (st = .feedHasAppeared ∨ st = .stageHasGoneLive) &&
        s.state.isOnline) = true := by
      simpa [SubscriptionState.appeared, and_assoc] using hfeed
    rw [if_neg hcond, or_iff_right hfeed]
    by_cases hlive : live = false ∧ st = .stageHasGoneLive ∧ s.state = .live
    · simp [hlive]
    · have hcond' : ¬ (!live && decide (st = .stageHasGoneLive) && decide (s.state = .live)) =
          true := by
        simpa [and_assoc] using hlive
      rw [if_neg hcond']
      simp [hlive]

/-- **`World.stageUpdate` is the handler that nothing interrupts.** -/
theorem exists_run_of_stageUpdate {allowed : State → State → Bool} (s : World) (w : Watch)
    (u : StageUpdate) (hstate : w.state = s.state)
    (hsub : w.subscriptionState = s.subscriptionState) (hidle : w.handler = .idle) :
    ∃ tr es w', (watchMachine allowed).Run w tr es w' ∧ w'.handler = .idle ∧
      w'.subscriptionState =
        (s.stageUpdate (u.shows w.feedId) u.live).1.subscriptionState ∧
      (.failureReported .takeover ∈ es ↔ .failureReported .subscription .takeover ∈
        (s.stageUpdate (u.shows w.feedId) u.live).2) := by
  rw [s.stageUpdate_subscriptionState, s.takeover_mem_stageUpdate, ← hsub, ← hstate]
  have hmessage : (watchMachine allowed).step w (.message (.update u)) = some (w.receive u) := by
    exact if_pos hidle
  have hquiet : .failureReported .takeover ∉ (w.receive u).2 := by
    by_cases hnone : w.subscriptionState = .none <;> simp [Watch.receive, hnone]
  have hrun : (watchMachine allowed).Run w _ (w.receive u).2 (w.receive u).1 := .single hmessage
  set st := w.subscriptionState.next (u.shows w.feedId) u.live with hst
  by_cases hfeed : u.shows w.feedId = false ∧ st.appeared = true
  · have htest : (w.receive u).1.handler = .testOnline u.live := by
      exact if_pos (by simpa using hfeed)
    by_cases hon : w.state.isOnline = true
    · have hstep : (watchMachine allowed).step (w.receive u).1 .handler =
          some ((w.receive u).1.report .takeover) := by
        have hon : (w.receive u).1.state.isOnline = true := hon
        simp [watchMachine, Watch.step, htest, hon]
      refine ⟨_, _, _, hrun.snoc hstep, rfl, rfl, ?_⟩
      simp [hfeed.1, hfeed.2, hon]
    · have hstep : (watchMachine allowed).step (w.receive u).1 .handler =
          some ({ (w.receive u).1 with handler := Watch.afterFeed st u.live }, []) := by
        have hon : ¬ (w.receive u).1.state.isOnline = true := hon
        simp [watchMachine, Watch.step, htest, hon, hst]
      obtain ⟨tr, es, w', hrun', hh, hsub', hmem⟩ := exists_run_of_afterFeed allowed
        { (w.receive u).1 with handler := Watch.afterFeed st u.live } u.live rfl
      refine ⟨_, _, w', (hrun.snoc hstep).trans hrun', hh, hsub', ?_⟩
      rw [List.append_nil, List.mem_append, hmem, or_iff_right hquiet]
      simp [hon, hst, Watch.receive]
  · have hafter : (w.receive u).1.handler = Watch.afterFeed st u.live := by
      exact if_neg (by simpa using hfeed)
    obtain ⟨tr, es, w', hrun', hh, hsub', hmem⟩ :=
      exists_run_of_afterFeed allowed (w.receive u).1 u.live hafter
    refine ⟨_, _, w', hrun.trans hrun', hh, hsub', ?_⟩
    rw [List.mem_append, hmem, or_iff_right hquiet]
    have hfeed' : ¬ (u.shows w.feedId = false ∧ st.appeared = true ∧ w.state.isOnline = true) :=
      fun h => hfeed ⟨h.1, h.2.1⟩
    rw [or_iff_right hfeed']
    rfl

/-! ## Takeovers -/

/-- The updates received, the latest first. -/
def receivedIn (tr : List (Watch × WatchAction)) : List StageUpdate :=
  (tr.filterMap fun
    | (_, .message (.update u)) => some u
    | _ => none).reverse

/-- The latest of the updates lacks the feed, and an earlier one contains it. -/
def LostFeed (feedId : String) (us : List StageUpdate) : Prop :=
  ∃ u earlier, us = u :: earlier ∧ u.shows feedId = false ∧
    ∃ u' ∈ earlier, u'.shows feedId = true

/-- The latest says the stage is not live, and an earlier one contains the feed and says
it is. -/
def LostStage (feedId : String) (us : List StageUpdate) : Prop :=
  ∃ u earlier, us = u :: earlier ∧ u.live = false ∧
    ∃ u' ∈ earlier, u'.shows feedId = true ∧ u'.live = true

/-- No update that the handler has passed over would be a takeover in the state `st`, or a
failure has been dispatched.  `us` are the updates received. -/
structure Watch.CanEnter (s : Watch) (us : List StageUpdate) (st : State) : Prop where
  online : st.isOnline = true → s.state.isOnline = false →
    (∀ live, s.handler ≠ .testOnline live) → LostFeed s.feedId us → s.failed = true
  live : st = .live → s.handler = .idle → LostStage s.feedId us → s.failed = true

/-- A takeover has not been dispatched, and the handler is through. -/
def Watch.Missed (s : Watch) (es : List WatchEvent) : Prop :=
  s.handler = .idle ∧ (∀ error, .failureReported error ∉ es) ∧
    (s.state.isOnline = true ∧ LostFeed s.feedId (updatesOf es) ∨
      s.state = .live ∧ LostStage s.feedId (updatesOf es))

/-- A takeover that the handler is past has been dispatched. -/
structure TakeoverInv (us : List StageUpdate) (s : Watch) : Prop where
  watch : WatchInv us s
  online : s.state.isOnline = true → (∀ live, s.handler ≠ .testOnline live) →
    LostFeed s.feedId us → s.failed = true
  live : s.state = .live → s.handler = .idle → LostStage s.feedId us → s.failed = true

section

variable {allowed : State → State → Bool} {s s' : Watch} {a : WatchAction}
  {out : List WatchEvent} {us : List StageUpdate}

/-- An update is evaluated when it comes: one that loses the feed leads to the first
test. -/
theorem WatchInv.testOnline_of_lostFeed (h : WatchInv us s) {u : StageUpdate}
    (hlost : LostFeed s.feedId (u :: us)) : (s.receive u).1.handler = .testOnline u.live := by
  obtain ⟨v, earlier, hus, hshow, hearlier⟩ := hlost
  obtain ⟨rfl, rfl⟩ := List.cons.inj hus
  have happeared := h.appeared.mpr hearlier
  refine if_pos ⟨by simp [hshow], ?_⟩
  rw [SubscriptionState.appeared_next, happeared, Bool.or_true]

/-- One of a stage that is live no longer leads to a test. -/
theorem WatchInv.ne_idle_of_lostStage (h : WatchInv us s) {u : StageUpdate}
    (hlost : LostStage s.feedId (u :: us)) : (s.receive u).1.handler ≠ .idle := by
  obtain ⟨v, earlier, hus, hlive, hearlier⟩ := hlost
  obtain ⟨rfl, rfl⟩ := List.cons.inj hus
  have hgone := h.wentLive.mpr hearlier
  have hnext : s.subscriptionState.next (u.shows s.feedId) u.live = .stageHasGoneLive :=
    (SubscriptionState.next_eq_stageHasGoneLive_iff _ _ _).mpr (.inr hgone)
  intro hidle
  have hidle : (if _ then _ else _ : HandlerStep) = .idle := hidle
  split at hidle
  · cases hidle
  · rw [hnext, Watch.afterFeed, if_pos ⟨by simp [hlive], rfl⟩] at hidle
    cases hidle

/-- **Step lemma.** -/
theorem TakeoverInv.moves (h : TakeoverInv us s) (hmoves : WatchMoves allowed s a s' out)
    (henter : ∀ st, a = .state st → s.CanEnter us st) :
    TakeoverInv (updatesOf out ++ us) s' := by
  refine ⟨h.watch.moves hmoves, ?_, ?_⟩
  all_goals
    have hout := hmoves.updatesOf_eq
    rw [hout]
    clear hout
  · intro hon htest hlost
    cases hmoves with
    | receive u hh => exact absurd (h.watch.testOnline_of_lostFeed hlost) (htest u.live)
    | passFeed live hh hs => exact absurd hon (by simp [hs])
    | passStage hh hs => exact h.online hon (by simp [hh]) hlost
    | state st hs =>
        -- the state gets there, or it has been there
        by_cases hwas : s.state.isOnline = true
        · exact h.online hwas htest hlost
        · exact (henter st rfl).online hon (by simpa using hwas) htest hlost
    | _ => rfl
  · intro hlive hidle hlost
    cases hmoves with
    | receive u hh => exact absurd hidle (h.watch.ne_idle_of_lostStage hlost)
    | passFeed live hh hs =>
        have hlive : s.state = .live := hlive
        rw [hlive] at hs
        cases hs
    | passStage hh hs => exact absurd hlive hs
    | state st hs => exact (henter st rfl).live hlive hidle hlost
    | _ => rfl

end

/-! ## Every run -/

section

variable {feedId : String} {tr : List (Watch × WatchAction)} {es : List WatchEvent} {s : Watch}

/-- Every change of the state comes when the handler has not passed over a takeover. -/
def EntersEvaluated (tr : List (Watch × WatchAction)) : Prop :=
  ∀ tr₁ t st tr₂, tr = tr₁ ++ (t, .state st) :: tr₂ → t.CanEnter (receivedIn tr₁) st

theorem EntersEvaluated.of_append {tr' : List (Watch × WatchAction)}
    (h : EntersEvaluated (tr ++ tr')) : EntersEvaluated tr := by
  intro tr₁ t st tr₂ htr
  exact h tr₁ t st (tr₂ ++ tr') (by rw [htr, List.append_assoc, List.cons_append])

/-- The messages in the steps are those in the events. -/
theorem WatchRuns.updatesOf_eq {allowed : State → State → Bool}
    (h : WatchRuns allowed feedId tr es s) : updatesOf es = receivedIn tr := by
  refine Machine.Run.induction_on_trace (I := fun tr es _ => updatesOf es = receivedIn tr)
    rfl ?_ h
  intro tr es s a s' out ih hs
  rw [updatesOf_append, ih, (watchMoves_of_step hs).updatesOf_eq]
  rcases a with (u | _) | _ | _ | _ <;> simp [receivedIn]

/-- `failed` is set with a report. -/
theorem WatchRuns.failed_iff {allowed : State → State → Bool}
    (h : WatchRuns allowed feedId tr es s) :
    s.failed = true ↔ ∃ error, .failureReported error ∈ es := by
  refine Machine.Run.induction_on_trace
    (I := fun _ es s => s.failed = true ↔ ∃ error, .failureReported error ∈ es) (by simp) ?_ h
  intro _ es s a s' out ih hs
  cases watchMoves_of_step hs with
  | receive u hh =>
      by_cases hnone : s.subscriptionState = .none <;> simp [Watch.receive, hnone, ih]
  | passFeed live hh hsf => simpa using ih
  | passStage hh hsf => simpa using ih
  | state st hst => simpa using ih
  | _ => simp [Watch.report]

/-- **Run lemma.** -/
theorem WatchRuns.takeoverInv {allowed : State → State → Bool}
    (h : WatchRuns allowed feedId tr es s) (htr : EntersEvaluated tr) :
    TakeoverInv (updatesOf es) s := by
  induction h with
  | refl =>
      exact ⟨watchInv_init feedId, fun hon => (by cases hon), fun hlive => (by cases hlive)⟩
  | @snoc t t' tr es out a hrun hs ih =>
      rw [updatesOf_append]
      apply (ih htr.of_append).moves (watchMoves_of_step hs)
      intro st hst
      have hrun : WatchRuns allowed feedId tr es t := hrun
      rw [hrun.updatesOf_eq]
      subst hst
      exact htr tr t st [] rfl

/-- **What is passed over is missed.**  A change of the state that comes when the handler has
passed over a takeover can be followed by a state in which it is missed. -/
theorem WatchRuns.exists_missed {st : State} (h : WatchRuns State.canBecome feedId tr es s)
    (hst : s.state.canBecome st = true) (hnot : ¬ s.CanEnter (receivedIn tr) st) :
    ∃ tr' es' s', WatchRuns State.canBecome feedId (tr ++ (s, .state st) :: tr') es' s' ∧
      s'.Missed es' := by
  have hstep : (watchMachine State.canBecome).step s (.state st) =
      some ({ s with state := st }, []) := if_pos hst
  have hrun : WatchRuns State.canBecome feedId (tr ++ [(s, .state st)]) es
      { s with state := st } := by
    have hsnoc := h.snoc hstep
    rw [List.append_nil] at hsnoc
    exact hsnoc
  have hquiet : ¬ s.failed = true → ∀ error, .failureReported error ∉ es := by
    intro hf error hmem
    exact hf (h.failed_iff.mpr ⟨error, hmem⟩)
  by_contra hnone
  apply hnot
  constructor
  · intro hon hwas htest hlost
    by_contra hf
    rw [← h.updatesOf_eq] at hlost
    cases hh : s.handler with
    | idle => exact hnone ⟨[], es, _, hrun, hh, hquiet hf, .inl ⟨hon, hlost⟩⟩
    | testOnline live => exact htest live hh
    | testLive =>
        -- past the test for the feed, and the broadcast is not live yet
        have hstreaming : st = .streaming := by
          cases hs : s.state <;> cases st <;> simp_all [State.canBecome, State.isOnline]
        have hpass : (watchMachine State.canBecome).step { s with state := st } .handler =
            some ({ s with state := st, handler := .idle }, []) := by
          simp [watchMachine, Watch.step, hh, hstreaming]
        have hrun' := hrun.snoc hpass
        rw [List.append_nil, List.append_assoc] at hrun'
        exact hnone ⟨_, es, _, hrun', rfl, hquiet hf, .inl ⟨hon, hlost⟩⟩
  · intro hlive hidle hlost
    by_contra hf
    rw [← h.updatesOf_eq] at hlost
    exact hnone ⟨[], es, _, hrun, hidle, hquiet hf, .inr ⟨hlive, hlost⟩⟩

/-- **No missed takeover, but for those passed over.**  In every run in which each change
of the state comes when the handler has not passed over a takeover, whenever no message is
being handled: if the broadcast is online and the latest update lacks our feed although an
earlier one contained it, a failure has been dispatched, and likewise if it is live and
the latest says the stage is not, although an earlier one showed our feed on a live
stage. -/
theorem takeover_dispatched (h : WatchRuns State.canBecome feedId tr es s)
    (htr : EntersEvaluated tr) (hidle : s.handler = .idle) :
    (s.state.isOnline = true → LostFeed feedId (updatesOf es) →
      ∃ error, .failureReported error ∈ es) ∧
    (s.state = .live → LostStage feedId (updatesOf es) →
      ∃ error, .failureReported error ∈ es) := by
  have hinv := h.takeoverInv htr
  have hfeed := h.feedId_eq
  rw [← h.failed_iff, ← hfeed]
  exact ⟨fun hon => hinv.online hon (by simp [hidle]), fun hlive => hinv.live hlive hidle⟩

end

/-- The feed is taken off the stage while the broadcast is streaming. -/
def feedLeavesActions : List WatchAction :=
  [.state .starting, .state .streaming, .message (.update ⟨["feed"], false⟩),
    .message (.update ⟨[], false⟩), .handler]

theorem takeover_dispatched_feedLeaves :
    ∃ tr es s, WatchRuns State.canBecome "feed" tr es s ∧ tr.map Prod.snd = feedLeavesActions ∧
      s.state.isOnline = true ∧ LostFeed "feed" (updatesOf es) ∧
      ∃ error, .failureReported error ∈ es := by
  obtain ⟨s, es, hexec, hes, hs⟩ : ∃ s es,
      (watchMachine State.canBecome).exec { feedId := "feed" } feedLeavesActions = some (s, es) ∧
      updatesOf es = [⟨[], false⟩, ⟨["feed"], false⟩] ∧ s.state = .streaming ∧ s.handler = .idle :=
    ⟨_, _, rfl, rfl, rfl, rfl⟩
  have hrun := Machine.Run.of_exec hexec
  have hon : s.state.isOnline = true := by rw [hs.1]; rfl
  have hlost : LostFeed "feed" (updatesOf es) :=
    ⟨_, _, hes, by decide, ⟨["feed"], false⟩, by simp, by decide⟩
  refine ⟨_, es, s, hrun, Machine.map_snd_trace hexec, hon, hlost,
    (takeover_dispatched hrun ?_ hs.2).1 hon hlost⟩
  -- no update has come before the two changes
  intro tr₁ t st tr₂ htr
  have hnone : receivedIn tr₁ = [] := by
    have hmap := congrArg (List.map Prod.snd) htr
    rw [Machine.map_snd_trace hexec, List.map_append, List.map_cons] at hmap
    rcases tr₁ with _ | ⟨p, _ | ⟨p₂, _ | ⟨p₃, _ | ⟨p₄, _ | ⟨p₅, tr₁⟩⟩⟩⟩⟩ <;>
      simp [feedLeavesActions] at hmap
    · rfl
    · obtain ⟨t', a⟩ := p
      obtain rfl : .state .starting = a := hmap.1
      rfl
  rw [hnone]
  exact ⟨fun _ _ _ ⟨_, _, h, _⟩ => (nomatch h), fun _ _ ⟨_, _, h, _⟩ => (nomatch h)⟩

/-- The feed is taken off the stage before the broadcast is streaming. -/
def feedLeavesEarlyActions : List WatchAction :=
  [.state .starting, .message (.update ⟨["feed"], false⟩), .message (.update ⟨[], false⟩),
    .handler, .state .streaming]

theorem not_takeover_dispatched_feedLeavesEarly :
    ¬ ∀ feedId tr es s, WatchRuns State.canBecome feedId tr es s → s.handler = .idle →
      (s.state.isOnline = true → LostFeed feedId (updatesOf es) →
        ∃ error, .failureReported error ∈ es) ∧
      (s.state = .live → LostStage feedId (updatesOf es) →
        ∃ error, .failureReported error ∈ es) := by
  obtain ⟨s, es, hexec, hes, hs⟩ : ∃ s es, (watchMachine State.canBecome).exec
      { feedId := "feed" } feedLeavesEarlyActions = some (s, es) ∧
      es = [.received (.update ⟨["feed"], false⟩), .subscriptionOpened,
        .received (.update ⟨[], false⟩)] ∧ s.state = .streaming ∧ s.handler = .idle :=
    ⟨_, _, rfl, rfl, rfl, rfl⟩
  intro hall
  have hlost : LostFeed "feed" (updatesOf es) := by
    rw [hes]
    exact ⟨⟨[], false⟩, [⟨["feed"], false⟩], rfl, by decide, ⟨["feed"], false⟩, by simp, by decide⟩
  obtain ⟨error, hmem⟩ :=
    (hall "feed" _ es s (.of_exec hexec) hs.2).1 (by rw [hs.1]; rfl) hlost
  rw [hes] at hmem
  simp at hmem

end Caff
