/-
# The subscription after `stop`

`Broadcast::stop` stores `Stopping`, clears the member `subscription` and then joins the
broadcast thread.  A thread that has tested the state before the store, or does not test it
at all, may assign the member after it has been cleared: the broadcast thread in its first
step, the websocket thread in `endedHandler`.  A refresh that is granted after that connects
the subscription its handler still holds.  If no thread is that far when the member is
cleared, there is no subscription any more once `stop` has returned, and none is made.
-/
import Caffeine.RealtimeMoves

namespace Caff

/-! ## What leads to a subscription -/

/-- The operation leads to a new subscription whatever the state of the broadcast is, or, on
another than the broadcast thread, to a new connection: it is part of `connect` or of a
refresh. -/
def Op.connects (r : Runner) : Op → Bool
  | .assign _ => true
  | .dial _ | .readRefreshToken .. | .awaitRefresh .. | .writeCredentials _ =>
      r ≠ .broadcastThread
  | _ => false

/-- When `stop` clears the member, no thread is about to make a subscription, or, the
broadcast thread apart, to connect one. -/
def ClearsLast (s : Realtime) (a : RealtimeAction) : Prop :=
  a = .run .stopper .success → (s.pending .stopper).head? = some .clear →
    ∀ r, ∀ op ∈ s.pending r, op.connects r = false

instance (s : Realtime) (a : RealtimeAction) : Decidable (ClearsLast s a) :=
  inferInstanceAs (Decidable (_ → _ → _))

/-- `stop` has cleared the member. -/
def Realtime.Cleared (s : Realtime) : Prop :=
  s.world.stopCall ≠ .notCalled ∧ .clear ∉ s.pending .stopper

/-- Then there is no subscription, and no thread makes one. -/
structure ClearedInv (s : Realtime) : Prop where
  subscription : s.Cleared → s.subscription = none
  quiet : s.Cleared → ∀ r, ∀ op ∈ s.pending r, op.connects r = false

section

variable {s s' : Realtime} {a : RealtimeAction} {out : List RealtimeEvent}

/-- What comes after an operation leads to a subscription only if the operation did, or the
member is not null, or the broadcast is running. -/
theorem Leads.connects {r : Runner} {op op' : Op} (h : Leads s op op')
    (hop : op.connects r = false) (hsub : s.subscription = none)
    (hstate : s.world.state.isRunning = false) : op'.connects r = false := by
  cases h with
  | connect k hk => rfl
  | connectDial k hk =>
      rw [hsub] at hk
      cases hk
  | setUpEnded tryNum endType _ hrun _ =>
      rw [hstate] at hrun
      cases hrun
  | setUpRetry tryNum _ hrun _ =>
      rw [hstate] at hrun
      cases hrun
  -- a refresh, and the connection after it
  | readRefreshToken k m => exact hop
  | refresh k m => exact hop
  | reconnectDial k => exact hop
  | _ => rfl

/-- A running broadcast has not been stopped. -/
theorem WorldInv.isRunning_of_cleared (h : WorldInv s) (hstop : s.world.stopCall ≠ .notCalled) :
    s.world.state.isRunning = false := by
  rcases h.state.not_online hstop with hst | hst <;> rw [hst] <;> rfl

/-- A step once the member has been cleared. -/
theorem ClearedInv.moves_of_cleared (h : ClearedInv s) (hw : WorldInv s) (hr : RefInv s)
    (hc : s.Cleared) (hmoves : RealtimeMoves s a s' out) :
    s'.subscription = none ∧ ∀ r, ∀ op ∈ s'.pending r, op.connects r = false := by
  have hsub := h.subscription hc
  have hquiet := h.quiet hc
  constructor
  · rcases hmoves.subscription_cases with hsame | hnone | ⟨r, k, tryNum, rest, -, hp, -⟩
    · rw [hsame, hsub]
    · exact hnone
    · have hassign := hquiet r (.assign tryNum) (by rw [hp]; simp)
      cases hassign
  · intro r op hmem
    rcases hmoves.mem_pending hmem with hold | hnew
    · exact hquiet r op hold
    · cases hnew with
      | createThread op hcreate hop =>
          have hreach := hw.join.reachable hc.1
          simp [World.reachable, hcreate] at hreach
      | storeStopping hcall => exact absurd hcall hc.1
      | next hp hop hops =>
          exact (hop.leads hops).connects (hquiet _ _ (by rw [hp]; simp)) hsub
            (hw.isRunning_of_cleared hc.1)
      | callback hi hcon halive hop =>
          -- no subscription is left for a callback
          rw [hr.eq_false_of_idle hsub hi] at halive
          cases halive
      | destroy => rfl

/-- The call of `stop` begins by having the member to clear. -/
theorem clear_mem_of_stop (hmoves : RealtimeMoves s a s' out)
    (hnot : s.world.stopCall = .notCalled) (hstop : s'.world.stopCall ≠ .notCalled) :
    .clear ∈ s'.pending .stopper := by
  rcases hmoves.world_cases with ⟨b, out', rfl, -, hs, -⟩ | ⟨ha, -⟩
  · by_cases hb : b = .stop
    · subst hb
      cases hmoves with
      | world _ w out hadmits hs' =>
          rw [Realtime.onWorld, if_pos hnot, Realtime.mem_push]
          exact .inl ⟨rfl, by simp⟩
    · rw [(moves_of_step hs).stopCall_eq hb] at hstop
      exact absurd hnot hstop
  · rw [(hmoves.sameCore ha).stopCall] at hstop
    exact absurd hnot hstop

/-- The step that clears the member. -/
theorem of_clearing (hquiet : ClearsLast s a) (hmoves : RealtimeMoves s a s' out)
    {rest : List Op} {reply : Reply} (ha : a = .run .stopper reply)
    (hp : s.pending .stopper = .clear :: rest) :
    s'.subscription = none ∧ ∀ r, ∀ op ∈ s'.pending r, op.connects r = false := by
  subst ha
  cases hmoves with
  | run _ op _ rest' t ops out hp' hop =>
      obtain ⟨rfl, rfl⟩ : Op.clear = op ∧ rest = rest' := by
        rw [hp] at hp'
        simpa using hp'
      have hpush : ∀ r, ∀ op ∈ (t.push .stopper ops).pending r,
          (r = .stopper ∧ op ∈ ops) ∨ op ∈ s.pending r := fun r op => hop.mem_push hp'
      cases hop with
      | clear =>
          refine ⟨Realtime.clear_subscription _, fun r op hmem => ?_⟩
          rcases hpush r op hmem with ⟨-, hnew⟩ | hold
          · obtain ⟨k, rfl⟩ := Realtime.eq_close_of_mem_clear hnew
            rfl
          · exact hquiet rfl (by rw [hp]; rfl) r op hold

/-- **Step lemma.** -/
theorem ClearedInv.moves (h : ClearedInv s) (hw : WorldInv s) (hr : RefInv s)
    (hquiet : ClearsLast s a) (hmoves : RealtimeMoves s a s' out) : ClearedInv s' := by
  have hall : s'.Cleared →
      s'.subscription = none ∧ ∀ r, ∀ op ∈ s'.pending r, op.connects r = false := by
    intro hc
    by_cases hwas : s.Cleared
    · exact h.moves_of_cleared hw hr hwas hmoves
    · have hstop : s.world.stopCall ≠ .notCalled := fun hnot =>
        hc.2 (clear_mem_of_stop hmoves hnot hc.1)
      have hclear : .clear ∈ s.pending .stopper := not_not.mp fun hnone => hwas ⟨hstop, hnone⟩
      rcases hmoves.mem_of_mem hclear with hstill | ⟨reply, rest, ha, hp⟩
      · exact absurd hstill hc.2
      · exact of_clearing hquiet hmoves ha hp
  exact ⟨fun hc => (hall hc).1, fun hc => (hall hc).2⟩

/-! ## After `stop` -/

/-- What the thread in `stop` has left to clear it clears before it joins. -/
def StopperInv (s : Realtime) : Prop :=
  .clear ∈ s.pending .stopper → s.world.stopCall = .joining

theorem joining_of_stop {w w' : World} {out : List Event} (h : w.step .stop = some (w', out))
    (hc : w.stopCall = .notCalled) : w'.stopCall = .joining := by
  have hstop : w.stopStep = some (w', out) := h
  rw [World.stopStep, hc] at hstop
  exact Machine.holds_of_guard (P := fun w' _ => w'.stopCall = .joining) hstop fun _ => rfl

/-- The thread in `stop` goes on with nothing to clear. -/
theorem Leads.ne_clear {op : Op} (h : Leads s op .clear) (hop : op.belongs .stopper = true) :
    False := by
  cases h with
  | setUpEnded tryNum endType _ hrun _ => cases hop
  | setUpRetry tryNum _ hrun _ => cases hop
  | destroy => cases hop

theorem StopperInv.moves (h : StopperInv s) (hb : BelongsInv s)
    (hmoves : RealtimeMoves s a s' out) : StopperInv s' := by
  intro hmem
  rcases hmoves.mem_pending hmem with hold | hnew
  · rcases hmoves.world_cases with ⟨b, out', rfl, hadmits, hs, -⟩ | ⟨ha, -⟩
    · by_cases hstop : b = .stop
      · -- `stop` does not go on
        subst hstop
        have hempty : s.pending .stopper = [] := by simpa [Realtime.admits] using hadmits
        rw [hempty] at hold
        cases hold
      · rw [(moves_of_step hs).stopCall_eq hstop]
        exact h hold
    · rw [(hmoves.sameCore ha).stopCall]
      exact h hold
  · cases hnew with
    | storeStopping hc =>
        rcases hmoves.world_cases with ⟨b, out', hb', -, hs, -⟩ | ⟨ha, -⟩
        · cases hb'
          exact joining_of_stop hs hc
        · exact absurd rfl (ha _)
    | next hp hop hops => exact ((hop.leads hops).ne_clear (hb _ _ (by rw [hp]; simp))).elim

/-- `stopReturned` is seen when `stop` returns. -/
theorem RealtimeMoves.stopCall_of_stopReturned (h : RealtimeMoves s a s' out)
    (hmem : .world .stopReturned ∈ out) : s'.world.stopCall = .returned := by
  cases h.shows hmem with
  | world b e =>
      cases h with
      | world b w out hb hs =>
          rw [Realtime.onWorld_world]
          exact ((moves_of_step hs).stop_of_stopReturned (by simpa using hmem)).2
  | run rest hp hop =>
      -- no message lets `stop` return
      cases hop with
      | handle m e he =>
          cases m with
          | update u =>
              have hmoves := moves_of_stageUpdate (s := s.world) (u.shows s.feedId) u.live
              cases (hmoves.stop_of_stopReturned he).1
          | errors messages => cases List.mem_singleton.mp he

/-- A subscription is made or connected in a step that shows nothing of the broadcast. -/
theorem RealtimeMoves.not_world_of_connects (h : RealtimeMoves s a s' out) {e : RealtimeEvent}
    (hmem : e ∈ out) (he : (∃ k, e = .created k) ∨ ∃ k c, e = .dialed k c) {e' : Event} :
    .world e' ∉ out := by
  intro hworld
  have hfresh : ∃ r n, a = .run r (.fresh n) := by
    rcases he with ⟨k, rfl⟩ | ⟨k, c, rfl⟩
    · cases h.shows hmem with
      | @run r _ _ _ rest hp hop =>
          cases hop
          exact ⟨r, k, rfl⟩
    · cases h.shows hmem with
      | @run r _ _ _ rest hp hop =>
          cases hop
          exact ⟨r, c, rfl⟩
  obtain ⟨r, n, rfl⟩ := hfresh
  cases h.shows hworld with
  | run rest hp hop => cases hop

end

/-! ## Every run -/

section

variable {feedId : String} {title gameId : Bytes} {rating : Rating}
  {tr : List (Realtime × RealtimeAction)} {es : List RealtimeEvent} {s : Realtime}

/-- **Run lemma.** -/
theorem RealtimeRuns.clearedInv (h : RealtimeRuns feedId title rating gameId tr es s)
    (hquiet : Machine.Meets ClearsLast tr) : ClearedInv s := by
  induction h with
  | refl => exact ⟨fun hc => absurd rfl hc.1, fun hc => absurd rfl hc.1⟩
  | @snoc t t' tr es out a hrun hs ih =>
      have hrun : RealtimeRuns feedId title rating gameId tr es t := hrun
      obtain ⟨htr, hlast⟩ := Machine.meets_snoc.mp hquiet
      exact (ih htr).moves hrun.worldInv hrun.refInv hlast (realtimeMoves_of_step hs)

theorem RealtimeRuns.stopperInv (h : RealtimeRuns feedId title rating gameId tr es s) :
    StopperInv s := by
  refine (Machine.Run.invariant (I := fun s => BelongsInv s ∧ StopperInv s)
    ⟨fun _ _ hop => ?_, fun hop => ?_⟩ (fun _ _ _ _ hi hs => ?_) h).2
  · cases hop
  · cases hop
  · exact ⟨hi.1.moves (realtimeMoves_of_step hs), hi.2.moves hi.1 (realtimeMoves_of_step hs)⟩

theorem RealtimeRuns.stopCall_of_stopReturned
    (h : RealtimeRuns feedId title rating gameId tr es s) :
    .world .stopReturned ∈ es → s.world.stopCall = .returned := by
  refine Machine.Run.induction_on_trace
    (I := fun _ es s => .world .stopReturned ∈ es → s.world.stopCall = .returned) (by simp) ?_ h
  intro _ es s a s' out ih hs hmem
  have hmoves := realtimeMoves_of_step hs
  rcases List.mem_append.mp hmem with hold | hnew
  · exact hmoves.world_invariant (I := fun w => w.stopCall = .returned)
      (fun _ _ _ _ hi hm => hm.stopCall_of_returned hi) (ih hold)
  · exact hmoves.stopCall_of_stopReturned hnew

/-- After `stop` the member has been cleared, and the broadcast thread has nothing to do. -/
theorem RealtimeRuns.cleared_of_returned (h : RealtimeRuns feedId title rating gameId tr es s)
    (hstop : s.world.stopCall = .returned) :
    s.Cleared ∧ s.pending .broadcastThread = [] := by
  refine ⟨⟨by simp [hstop], fun hclear => ?_⟩, h.worldInv.pending_of_returned hstop⟩
  rw [h.stopperInv hclear] at hstop
  cases hstop

/-- After `stop` no subscription is made and none is connected, if the member was cleared
last. -/
theorem RealtimeRuns.quiet_of_returned (h : RealtimeRuns feedId title rating gameId tr es s)
    (hquiet : Machine.Meets ClearsLast tr) (hstop : s.world.stopCall = .returned)
    {a : RealtimeAction} {s' : Realtime} {out : List RealtimeEvent}
    (hs : realtimeMachine.step s a = some (s', out)) :
    (∀ k, .created k ∉ out) ∧ ∀ k c, .dialed k c ∉ out := by
  obtain ⟨hc, hidle⟩ := h.cleared_of_returned hstop
  have hnone := (h.clearedInv hquiet).quiet hc
  have hmoves := realtimeMoves_of_step hs
  constructor
  · intro k hmem
    cases hmoves.shows hmem with
    | @run r _ _ _ rest hp hop =>
        cases hop with
        | created tryNum k =>
            have hassign := hnone r (.assign tryNum) (by rw [hp]; simp)
            cases hassign
  · intro k c hmem
    cases hmoves.shows hmem with
    | @run r _ _ _ rest hp hop =>
        cases hop with
        | dialed k c =>
            have hdial := hnone r (.dial k) (by rw [hp]; simp)
            have hr : r = .broadcastThread := by simpa [Op.connects] using hdial
            rw [hr, hidle] at hp
            cases hp

/-- **The subscription after `stop`.**  In every run in which, when `stop` clears the member,
no thread is about to make a subscription and none but the broadcast thread is in a connect
or a refresh: once `stop` has returned the broadcast holds no subscription, and no further
one is made or connected. -/
theorem no_subscription_after_stop (h : RealtimeRuns feedId title rating gameId tr es s)
    (hquiet : Machine.Meets ClearsLast tr) :
    (.world .stopReturned ∈ es → s.subscription = none) ∧
    ∀ l₁ l₂, es = l₁ ++ .world .stopReturned :: l₂ →
      (∀ k, .created k ∉ l₂) ∧ ∀ k c, .dialed k c ∉ l₂ := by
  constructor
  · intro hmem
    have hstop := h.stopCall_of_stopReturned hmem
    exact (h.clearedInv hquiet).subscription (h.cleared_of_returned hstop).1
  · intro l₁ l₂ hes
    have hlater : ∀ e ∈ l₂, (∃ k, e = .created k) ∨ (∃ k c, e = .dialed k c) → False := by
      intro e hmem he
      obtain ⟨tr₁, tr₂, es', t, a, t', out, htr, hrun, hs, hout, hret⟩ :=
        h.exists_step_of_later_output hes hmem
      have hrun : RealtimeRuns feedId title rating gameId tr₁ es' t := hrun
      have hstop : t.world.stopCall = .returned := by
        refine hrun.stopCall_of_stopReturned (hret.resolve_right fun hsame => ?_)
        exact (realtimeMoves_of_step hs).not_world_of_connects hout he hsame
      rw [htr] at hquiet
      obtain ⟨hcreated, hdialed⟩ := hrun.quiet_of_returned hquiet.of_append hstop hs
      rcases he with ⟨k, rfl⟩ | ⟨k, c, rfl⟩
      · exact hcreated k hout
      · exact hdialed k c hout
    exact ⟨fun k hmem => hlater _ hmem (.inl ⟨k, rfl⟩),
      fun k c hmem => hlater _ hmem (.inr ⟨k, c, rfl⟩)⟩

end

/-- A broadcast that is stopped with its subscription set up. -/
def stopSubscribedActions : List RealtimeAction :=
  setupActions ++ [.world .stop] ++ List.replicate 3 (.run .stopper .success) ++ stopActions

theorem no_subscription_after_stop_stopSubscribed :
    ∃ tr es s, RealtimeRuns "feed" [] .none [] tr es s ∧ tr.map Prod.snd = stopSubscribedActions ∧
      .world .stopReturned ∈ es ∧ s.subscription = none := by
  obtain ⟨s, es, hexec, hes⟩ : ∃ s es,
      realtimeMachine.exec (.init "feed" [] .none []) stopSubscribedActions = some (s, es) ∧
      .world .stopReturned ∈ es :=
    ⟨_, _, rfl, by decide⟩
  have hrun := Machine.Run.of_exec hexec
  have hquiet : Machine.Meets ClearsLast
      (realtimeMachine.trace (.init "feed" [] .none []) stopSubscribedActions) := by decide
  exact ⟨_, es, s, hrun, Machine.map_snd_trace hexec, hes,
    (no_subscription_after_stop hrun hquiet).1 hes⟩

/-- A broadcast that is stopped before its thread has made the subscription. -/
def stopEarlyActions : List RealtimeAction :=
  [.world .start, .world (.encoderInfo false), .world .stop, .run .stopper .success] ++
    [.fresh 0, .success, .success, .fresh 0, .success].map (.run .broadcastThread) ++ stopActions

theorem not_no_subscription_after_stop_stopEarly :
    ¬ ∀ feedId title rating gameId tr es s, RealtimeRuns feedId title rating gameId tr es s →
      (.world .stopReturned ∈ es → s.subscription = none) ∧
      ∀ l₁ l₂, es = l₁ ++ .world .stopReturned :: l₂ →
        (∀ k, .created k ∉ l₂) ∧ ∀ k c, .dialed k c ∉ l₂ := by
  obtain ⟨s, es, hexec, hes, hs⟩ : ∃ s es,
      realtimeMachine.exec (.init "feed" [] .none []) stopEarlyActions = some (s, es) ∧
      .world .stopReturned ∈ es ∧ s.subscription = some 0 :=
    ⟨_, _, rfl, by decide, rfl⟩
  intro hall
  rw [(hall "feed" [] .none [] _ es s (.of_exec hexec)).1 hes] at hs
  cases hs

end Caff
