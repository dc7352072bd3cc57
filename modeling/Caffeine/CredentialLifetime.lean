/-
# The credentials after `signOut`

`Instance::signOut` ends the broadcast and then resets the credentials, to which the
subscriptions and the statistics observer of the broadcast keep a reference.  `stop` joins
the broadcast thread only.  A handler on the websocket thread that is in a refresh, a
subscription that is left, and statistics that are still to be sent use the credentials
after the reset.  Without any of these when it happens nothing does.
-/
import Caffeine.SubscriptionAfterStop

namespace Caff

/-! ## Users of the credentials -/

/-- The operation uses the credentials or leads to their use. -/
def Op.usesCredentials : Op → Bool
  | .assign _ | .connectionInit _ | .readRefreshToken .. | .awaitRefresh .. | .writeCredentials _ =>
      true
  | _ => false

/-- When `signOut` resets the credentials the broadcast has no subscription left, no handler
on the websocket thread is in a refresh, in `connection_init` or about to make a subscription,
and no statistics are asked for or still to be sent. -/
def SignsOutLast (s : Realtime) (a : RealtimeAction) : Prop :=
  a = .signOut → s.subscription = none ∧
    (∀ op ∈ s.pending .clientThread, op.usesCredentials = false) ∧
    s.statsRequests = 0 ∧ s.statsTasks = 0

instance (s : Realtime) (a : RealtimeAction) : Decidable (SignsOutLast s a) :=
  inferInstanceAs (Decidable (_ → _ ∧ _))

/-- Nobody is left to use the credentials. -/
structure Unused (s : Realtime) : Prop where
  slot : s.slot = false
  subscription : s.subscription = none
  pending : ∀ r, ∀ op ∈ s.pending r, op.usesCredentials = false
  statsRequests : s.statsRequests = 0
  statsTasks : s.statsTasks = 0

/-- Once the credentials are reset nobody is. -/
def SignedOutInv (s : Realtime) : Prop := s.sharedCredentials = false → Unused s

section

variable {s s' : Realtime} {a : RealtimeAction} {out : List RealtimeEvent}

/-- What comes after an operation uses the credentials only if the operation does, or the
broadcast is running. -/
theorem Leads.usesCredentials {op op' : Op} (h : Leads s op op')
    (hop : op.usesCredentials = false) (hstate : s.world.state.isRunning = false) :
    op'.usesCredentials = false := by
  cases h with
  | setUpEnded tryNum endType _ hrun _ =>
      rw [hstate] at hrun
      cases hrun
  | setUpRetry tryNum _ hrun _ =>
      rw [hstate] at hrun
      cases hrun
  | readRefreshToken k m => cases hop
  | refresh k m => cases hop
  | _ => rfl

/-! ### What the steps do to the statistics and the credentials -/

/-- Only the broadcast thread asks for statistics. -/
theorem statsRequests_onWorld {w : World} {b : Action} (hb : ∀ o, b ≠ .thread o) :
    (s.onWorld w b).statsRequests = s.statsRequests := by
  rw [Realtime.onWorld.eq_def]
  split
  · rfl
  · split <;> rfl
  · exact absurd rfl (hb _)
  · rfl

theorem statsTasks_onWorld (s : Realtime) (w : World) (b : Action) :
    (s.onWorld w b).statsTasks = s.statsTasks := by
  rw [Realtime.onWorld.eq_def]
  split <;> (try split) <;> rfl

theorem stats_callback (s : Realtime) (k : ℕ) (ops : List Op) :
    (s.callback k ops).statsRequests = s.statsRequests ∧
      (s.callback k ops).statsTasks = s.statsTasks := by
  unfold Realtime.callback
  split <;> exact ⟨rfl, rfl⟩

/-- Without the broadcast thread, and with no statistics asked for or to be sent, there are
none afterwards. -/
theorem RealtimeMoves.stats (h : RealtimeMoves s a s' out)
    (hthread : s.world.thread.running = false) (hrequests : s.statsRequests = 0)
    (htasks : s.statsTasks = 0) : s'.statsRequests = 0 ∧ s'.statsTasks = 0 := by
  cases h with
  | world b w out hb hs =>
      have hnot : ∀ o, b ≠ .thread o := by
        rintro o rfl
        rcases (moves_of_step hs).cases_thread with ⟨o', -, hmoves, -⟩ | ⟨hother, -⟩
        · rw [hmoves.running] at hthread
          cases hthread
        · exact hother o rfl
      exact ⟨(statsRequests_onWorld hnot).trans hrequests,
        (statsTasks_onWorld s w b).trans htasks⟩
  | run r op reply rest t ops out hp hop =>
      exact ⟨hop.frame.statsRequests.trans hrequests, hop.frame.statsTasks.trans htasks⟩
  | opened c x hi hc hx =>
      obtain ⟨hr, ht⟩ := stats_callback (s.setPhase c .open) x.subscription
        [.connectionInit x.subscription]
      exact ⟨hr.trans hrequests, ht.trans htasks⟩
  | ended c x endType hi hc hx =>
      obtain ⟨hr, ht⟩ := stats_callback (s.setPhase c .handled) x.subscription
        [.lockEnded (s.tryNumOf x.subscription) endType]
      exact ⟨hr.trans hrequests, ht.trans htasks⟩
  | message c m x hi hc hx =>
      obtain ⟨hr, ht⟩ := stats_callback s x.subscription [Realtime.received x.subscription m]
      exact ⟨hr.trans hrequests, ht.trans htasks⟩
  | drop hr =>
      have hframe := opFrame_dropBroadcast { s with references := s.references - 1 } .owner
      exact ⟨hframe.statsRequests.trans hrequests, hframe.statsTasks.trans htasks⟩
  | completeStats hn => omega
  | sendStats hn => omega
  | dropStats => exact ⟨hrequests, rfl⟩
  | _ => exact ⟨hrequests, htasks⟩

/-- Only `signOut` resets the credentials. -/
theorem RealtimeMoves.sharedCredentials_eq (h : RealtimeMoves s a s' out) (ha : a ≠ .signOut) :
    s'.sharedCredentials = s.sharedCredentials := by
  cases h with
  | world b w out hb hs => exact (sameObjects_onWorld s w b).sharedCredentials
  | run r op reply rest t ops out hp hop => exact hop.frame.sharedCredentials
  | opened c x hi hc hx => exact (sameObjects_callback _ _ _).sharedCredentials
  | ended c x endType hi hc hx => exact (sameObjects_callback _ _ _).sharedCredentials
  | message c m x hi hc hx => exact (sameObjects_callback _ _ _).sharedCredentials
  | drop hr => exact (opFrame_dropBroadcast _ _).sharedCredentials
  | signOut hslot hc => exact absurd rfl ha
  | _ => rfl

/-! ### The step lemma -/

/-- Nobody comes to use the credentials of a broadcast that has been stopped. -/
theorem Unused.moves (h : Unused s) (hw : WorldInv s) (hr : RefInv s)
    (hmoves : RealtimeMoves s a s' out) : Unused s' := by
  have hstop : s.world.stopCall ≠ .notCalled := by
    rw [hw.slot h.slot]
    decide
  have hjoin := hw.join.joined (.inr (hw.slot h.slot))
  obtain ⟨hrequests, htasks⟩ :=
    hmoves.stats (not_running_of_canJoin hjoin) h.statsRequests h.statsTasks
  refine ⟨?_, ?_, fun r op hmem => ?_, hrequests, htasks⟩
  · rw [hmoves.slot_eq ?_]
    · exact h.slot
    · rintro rfl
      cases hmoves with
      | detach hslot _ =>
          rw [h.slot] at hslot
          cases hslot
  · rcases hmoves.subscription_cases with hsame | hnone | ⟨r, k, tryNum, rest, -, hp, -⟩
    · rw [hsame, h.subscription]
    · exact hnone
    · have hassign := h.pending r (.assign tryNum) (by rw [hp]; simp)
      cases hassign
  · rcases hmoves.mem_pending hmem with hold | hnew
    · exact h.pending r op hold
    · cases hnew with
      | createThread op hcreate hop =>
          have hreach := hw.join.reachable hstop
          simp [World.reachable, hcreate] at hreach
      | storeStopping hcall => rfl
      | next hp hop hops =>
          exact (hop.leads hops).usesCredentials (h.pending _ _ (by rw [hp]; simp))
            (hw.isRunning_of_cleared hstop)
      | callback hi hcon halive hop =>
          rw [hr.eq_false_of_idle h.subscription hi] at halive
          cases halive
      | destroy => rfl

/-- The threads that only clear and destroy use no credentials. -/
theorem usesCredentials_of_belongs {r : Runner} {op : Op} (hr : r = .stopper ∨ r = .owner)
    (h : op.belongs r = true) : op.usesCredentials = false := by
  rcases hr with rfl | rfl <;> cases op <;> first | rfl | cases h

/-- **Step lemma.** -/
theorem SignedOutInv.moves (h : SignedOutInv s) (hw : WorldInv s) (hr : RefInv s)
    (hb : BelongsInv s) (hlast : SignsOutLast s a) (hmoves : RealtimeMoves s a s' out) :
    SignedOutInv s' := by
  intro hc
  by_cases ha : a = .signOut
  · subst ha
    obtain ⟨hsub, hclient, hrequests, htasks⟩ := hlast rfl
    cases hmoves with
    | signOut hslot hwas =>
        refine ⟨hslot, hsub, fun r op hmem => ?_, hrequests, htasks⟩
        have hmem : op ∈ s.pending r := hmem
        cases r with
        | clientThread => exact hclient op hmem
        | broadcastThread =>
            rw [hw.pending_of_returned (hw.slot hslot)] at hmem
            cases hmem
        | stopper => exact usesCredentials_of_belongs (.inl rfl) (hb _ op hmem)
        | owner => exact usesCredentials_of_belongs (.inr rfl) (hb _ op hmem)
  · rw [hmoves.sharedCredentials_eq ha] at hc
    exact (h hc).moves hw hr hmoves

/-- Only `signOut` resets the credentials. -/
theorem signOut_of_signedOut (h : Shows s a .signedOut) : a = .signOut := by
  cases h with
  | signOut => rfl
  | run rest hp hop => cases hop

/-- An operation that reads or writes the credentials is known by what it is. -/
theorem OpShows.usesCredentials {r : Runner} {op : Op} {reply : Reply}
    (h : OpShows s r op reply .credentialsUsed) : op.usesCredentials = true := by
  cases h <;> rfl

/-- Whoever uses the credentials was left to. -/
theorem RealtimeMoves.not_unused_of_credentialsUsed (h : RealtimeMoves s a s' out)
    (hmem : .credentialsUsed ∈ out) : ¬ Unused s := by
  intro hunused
  cases h.shows hmem with
  | @run r op _ _ rest hp hop =>
      have hunusing := hunused.pending r op (by rw [hp]; simp)
      rw [hop.usesCredentials] at hunusing
      cases hunusing
  | sendStats hn =>
      rw [hunused.statsTasks] at hn
      cases hn

end

/-! ## Every run -/

section

variable {feedId : String} {title gameId : Bytes} {rating : Rating}
  {tr : List (Realtime × RealtimeAction)} {es : List RealtimeEvent} {s : Realtime}

/-- **Run lemma.** -/
theorem RealtimeRuns.signedOutInv (h : RealtimeRuns feedId title rating gameId tr es s)
    (hlast : Machine.Meets SignsOutLast tr) : SignedOutInv s := by
  induction h with
  | refl => exact fun hc => by cases hc
  | @snoc t t' tr es out a hrun hs ih =>
      have hrun : RealtimeRuns feedId title rating gameId tr es t := hrun
      obtain ⟨htr, hcond⟩ := Machine.meets_snoc.mp hlast
      exact (ih htr).moves hrun.worldInv hrun.refInv hrun.belongsInv hcond
        (realtimeMoves_of_step hs)

/-- The credentials are reset with `signedOut`. -/
theorem RealtimeRuns.sharedCredentials_of_signedOut
    (h : RealtimeRuns feedId title rating gameId tr es s) :
    .signedOut ∈ es → s.sharedCredentials = false := by
  refine Machine.Run.induction_on_trace
    (I := fun _ es s => .signedOut ∈ es → s.sharedCredentials = false) (by simp) ?_ h
  intro _ es s a s' out ih hs hmem
  have hmoves := realtimeMoves_of_step hs
  rcases List.mem_append.mp hmem with hold | hnew
  · by_cases ha : a = .signOut
    · subst ha
      cases hmoves with
      | signOut hslot hc => rfl
    · rw [hmoves.sharedCredentials_eq ha]
      exact ih hold
  · obtain rfl := signOut_of_signedOut (hmoves.shows hnew)
    cases hmoves with
    | signOut hslot hc => rfl

/-- **The credentials after `signOut`.**  In every run in which nobody is left to use the
credentials when `signOut` resets them, no step reads or writes them after that. -/
theorem credentials_unused_after_signOut
    (h : RealtimeRuns feedId title rating gameId tr es s)
    (hlast : Machine.Meets SignsOutLast tr) :
    ∀ l₁ l₂, es = l₁ ++ .signedOut :: l₂ → .credentialsUsed ∉ l₂ := by
  intro l₁ l₂ hes hmem
  obtain ⟨tr₁, tr₂, es', t, a, t', out, htr, hrun, hs, hout, hwas⟩ :=
    h.exists_step_of_later_output hes hmem
  have hrun : RealtimeRuns feedId title rating gameId tr₁ es' t := hrun
  have hmoves := realtimeMoves_of_step hs
  have hreset : t.sharedCredentials = false := by
    apply hrun.sharedCredentials_of_signedOut
    apply hwas.resolve_right
    intro hsame
    obtain rfl := signOut_of_signedOut (hmoves.shows hsame)
    cases hmoves.shows hout
  rw [htr] at hlast
  exact hmoves.not_unused_of_credentialsUsed hout (hrun.signedOutInv hlast.of_append hreset)

end

/-- The credential expires, and the broadcast is ended while the websocket thread waits for
the refresh. -/
def endInRefreshActions : List RealtimeAction :=
  setupActions ++ .opened 0 :: List.replicate 2 (.run .clientThread .success) ++
    [.message 0 (.errors ["credential expired"]), .run .clientThread .success, .world .stop,
      .run .stopper .success] ++ stopActions ++ [.detach]

/-- The refresh is refused, and the handler goes on, before `signOut` resets the
credentials. -/
def signOutLateActions : List RealtimeAction :=
  endInRefreshActions ++ .run .clientThread .failure ::
    List.replicate 3 (.run .clientThread .success) ++ [.signOut]

theorem credentials_unused_after_signOut_signOutLate :
    ∃ tr es s, RealtimeRuns "feed" [] .none [] tr es s ∧ tr.map Prod.snd = signOutLateActions ∧
      .signedOut ∈ es ∧ .credentialsUsed ∈ es ∧
      ∀ l₁ l₂, es = l₁ ++ .signedOut :: l₂ → .credentialsUsed ∉ l₂ := by
  obtain ⟨s, es, hexec, hes, hused⟩ : ∃ s es,
      realtimeMachine.exec (.init "feed" [] .none []) signOutLateActions = some (s, es) ∧
      .signedOut ∈ es ∧ .credentialsUsed ∈ es :=
    ⟨_, _, rfl, by decide, by decide⟩
  have hrun := Machine.Run.of_exec hexec
  have hlast : Machine.Meets SignsOutLast
      (realtimeMachine.trace (.init "feed" [] .none []) signOutLateActions) := by decide
  exact ⟨_, es, s, hrun, Machine.map_snd_trace hexec, hes, hused,
    credentials_unused_after_signOut hrun hlast⟩

theorem not_credentials_unused_after_signOut_endInRefresh :
    ¬ ∀ feedId title rating gameId tr es s, RealtimeRuns feedId title rating gameId tr es s →
      ∀ l₁ l₂, es = l₁ ++ .signedOut :: l₂ → .credentialsUsed ∉ l₂ := by
  obtain ⟨s, es, hexec, l₁, hes⟩ : ∃ s es,
      realtimeMachine.exec (.init "feed" [] .none []) (endInRefreshActions ++
        .signOut :: List.replicate 2 (.run .clientThread .success)) = some (s, es) ∧
      ∃ l₁, es = l₁ ++ .signedOut :: [.credentialsUsed, .refreshed 0] :=
    ⟨_, _, rfl, [.created 0, .setUp 0, .dialed 0 0, .credentialsUsed, .credentialsUsed,
      .world .stopStored, .world (.failureReported .broadcastThread .broadcastFailed),
      .world .joined, .world .stopReturned], rfl⟩
  intro hall
  exact hall "feed" [] .none [] _ es s (.of_exec hexec) l₁ _ hes (by simp)

end Caff
