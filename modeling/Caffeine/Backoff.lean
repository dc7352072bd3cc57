/-
# The waits before a retry

When a connection of the stage subscription has failed, `endedHandler` waits before it sets
up the subscription again, and the new one counts one attempt more; a connection that was
closed is replaced at once, and the count begins again.  The counts are bound by the handlers
of the subscriptions, which come and go.  The waits of a run are those that the ends of its
connections ask for.
-/
import Caffeine.LastReference
import Caffeine.Reconnects

namespace Caff

/-! ## The waits that are asked for -/

/-- In seconds. -/
def backoffDuration (tryNum : ℕ) : ℕ := min (1 + 1 * tryNum) 20

/-- The failures in a row after one more end. -/
def failedAfter (n : ℕ) : ConnectionEndType → ℕ
  | .closed => 0
  | .failed => n + 1

/-- How many of the last ends in a row are failures. -/
def failedInARow (ends : List ConnectionEndType) : ℕ := ends.foldl failedAfter 0

/-- The waits that the ends ask for, after `n` failures in a row. -/
def retryDelays : ℕ → List ConnectionEndType → List ℕ
  | _, [] => []
  | _, .closed :: rest => retryDelays 0 rest
  | n, .failed :: rest => backoffDuration (n + 1) :: retryDelays (n + 1) rest

theorem retryDelays_append (n : ℕ) (ends ends' : List ConnectionEndType) :
    retryDelays n (ends ++ ends') =
      retryDelays n ends ++ retryDelays (ends.foldl failedAfter n) ends' := by
  induction ends generalizing n with
  | nil => rfl
  | cons e ends ih =>
      cases e with
      | closed => exact ih 0
      | failed =>
          rw [List.cons_append, retryDelays, retryDelays, ih, List.cons_append]
          rfl

example : retryDelays 0 [.failed, .failed, .closed, .failed] = [2, 3, 2] := by decide

/-! ## The waits of a run -/

/-- The end that the websocket thread finds while the broadcast is running. -/
def Realtime.testedEnd (s : Realtime) : RealtimeAction → Option ConnectionEndType
  | .run .clientThread _ =>
      match s.pending .clientThread with
      | .testEnded _ endType :: _ => if s.world.state.isRunning then some endType else none
      | _ => none
  | _ => none

/-- The ends that were found, in order. -/
def testedEnds (tr : List (Realtime × RealtimeAction)) : List ConnectionEndType :=
  tr.filterMap fun p => p.1.testedEnd p.2

/-- The wait before the operation. -/
def Op.delay : Op → Option ℕ
  | .lockRetry tryNum => some (backoffDuration tryNum)
  | _ => none

/-- The websocket thread has waited, and goes on. -/
def Realtime.sleptFor (s : Realtime) : RealtimeAction → Option ℕ
  | .run .clientThread _ => (s.pending .clientThread).head?.bind Op.delay
  | _ => none

/-- The waits that are over, in order. -/
def slept (tr : List (Realtime × RealtimeAction)) : List ℕ :=
  tr.filterMap fun p => p.1.sleptFor p.2

/-- The wait that is still to come, or under way. -/
def Realtime.sleeping (s : Realtime) : List ℕ := (s.pending .clientThread).filterMap Op.delay

/-! ## The count -/

/-- The operations that carry the count. -/
def Op.retries : Op → Bool
  | .assign _ | .lockEnded .. | .testEnded .. | .lockRetry _ | .testRetry _ => true
  | _ => false

/-- **The count** after `n` failures in a row, in the operation of the websocket thread that
carries it, or in the subscription if there is none. -/
inductive RetryPhase (n : ℕ) (s : Realtime) : List Op → Prop
  | idle (hsub : s.world.state.isRunning = true →
      ∀ k, s.subscription = some k → s.tryNumOf k = n + 1) : RetryPhase n s []
  | lockEnded (tryNum : ℕ) (endType : ConnectionEndType)
      (hsub : s.world.state.isRunning = true → tryNum = n + 1 ∧
        ∀ k, s.subscription = some k → s.tryNumOf k = n + 1) :
      RetryPhase n s [.lockEnded tryNum endType]
  | testEnded (tryNum : ℕ) (endType : ConnectionEndType)
      (hsub : s.world.state.isRunning = true → tryNum = n + 1 ∧
        ∀ k, s.subscription = some k → s.tryNumOf k = n + 1) :
      RetryPhase n s [.testEnded tryNum endType]
  | lockRetry : RetryPhase n s [.lockRetry n]
  | testRetry : RetryPhase n s [.testRetry n]
  | assign : RetryPhase n s [.assign (n + 1)]

section

variable {s s' : Realtime} {n : ℕ} {l : List Op}

/-- The broadcast does not begin to run, and the member stays, or becomes null. -/
theorem RetryPhase.congr (h : RetryPhase n s l)
    (hrun : s'.world.state.isRunning = true → s.world.state.isRunning = true)
    (hsub : s'.subscription = none ∨
      s'.subscription = s.subscription ∧ ∀ k, s'.tryNumOf k = s.tryNumOf k) :
    RetryPhase n s' l := by
  have hkeep : (∀ k, s.subscription = some k → s.tryNumOf k = n + 1) →
      ∀ k, s'.subscription = some k → s'.tryNumOf k = n + 1 := by
    intro hcount k hk
    rcases hsub with hnone | ⟨hsame, htry⟩
    · rw [hnone] at hk
      cases hk
    · rw [htry]
      exact hcount k (hsame ▸ hk)
  cases h with
  | idle hcount => exact .idle fun hr => hkeep (hcount (hrun hr))
  | lockEnded tryNum endType hcount =>
      exact .lockEnded tryNum endType fun hr => (hcount (hrun hr)).imp_right hkeep
  | testEnded tryNum endType hcount =>
      exact .testEnded tryNum endType fun hr => (hcount (hrun hr)).imp_right hkeep
  | lockRetry => exact .lockRetry
  | testRetry => exact .testRetry
  | assign => exact .assign

end

/-! ## What an operation does to the count -/

section

variable {s s' : Realtime} {r : Runner} {op op' : Op} {reply : Reply} {ops : List Op}
  {out : List RealtimeEvent}

theorem tryNumOf_setSubscription (f : Subscription → Subscription)
    (hf : ∀ x, (f x).tryNum = x.tryNum) (k k' : ℕ) :
    (s.setSubscription k f).tryNumOf k' = s.tryNumOf k' := by
  show ((Function.update s.subscriptions k ((s.subscriptions k).map f) k').map (·.tryNum)).getD 0 =
    ((s.subscriptions k').map (·.tryNum)).getD 0
  by_cases hk : k' = k
  · rw [hk, Function.update_self, Option.map_map]
    congr 2
    funext x
    exact hf x
  · rw [Function.update_of_ne hk]

theorem tryNumOf_release (k k' : ℕ) : (s.release k).1.tryNumOf k' = s.tryNumOf k' := by
  unfold Realtime.release
  split
  · rfl
  · exact tryNumOf_setSubscription (fun x => { x with alive := false }) (fun _ => rfl) k k'

theorem tryNumOf_assignHandle (k k' : ℕ) (connection : Option ℕ) :
    (s.assignHandle k connection).tryNumOf k' = s.tryNumOf k' := by
  rw [Realtime.assignHandle,
    tryNumOf_setSubscription (fun x => { x with connection }) (fun _ => rfl)]
  split <;> rfl

/-- The new subscription carries the count that the operation brings. -/
theorem tryNumOf_assign (k tryNum : ℕ) : (s.assign k tryNum).1.tryNumOf k = tryNum := by
  rw [Realtime.assign.eq_def]
  split
  · rw [tryNumOf_release]
    simp [Realtime.tryNumOf]
  · simp [Realtime.tryNumOf]

/-- **The member and the counts** are touched by an assignment only, but that the member may
become null. -/
theorem OpMoves.tryNum_cases (h : OpMoves s r op reply s' ops out) :
    (∃ tryNum k, op = .assign tryNum ∧ s'.subscription = some k ∧ s'.tryNumOf k = tryNum) ∨
      s'.subscription = none ∨
      s'.subscription = s.subscription ∧ ∀ k, s'.tryNumOf k = s.tryNumOf k := by
  cases h with
  | assign tryNum k hk =>
      exact .inl ⟨tryNum, k, rfl, s.assign_subscription k tryNum, tryNumOf_assign k tryNum⟩
  | clear => exact .inr (.inl s.clear_subscription)
  | reset k =>
      exact .inr (.inr ⟨s.assignHandle_subscription k none, fun _ => tryNumOf_assignHandle ..⟩)
  | keep k connection =>
      exact .inr (.inr ⟨s.assignHandle_subscription k connection,
        fun _ => tryNumOf_assignHandle ..⟩)
  | releaseSubscription k =>
      exact .inr (.inr ⟨s.release_subscription k, fun _ => tryNumOf_release ..⟩)
  | handle m =>
      refine .inr (.inr ⟨s.handleMessage_subscription m, fun k => ?_⟩)
      cases m <;> rfl
  | releaseBroadcast =>
      refine .inr (.inr ⟨s.dropBroadcast_subscription r, fun k => ?_⟩)
      unfold Realtime.dropBroadcast
      split <;> rfl
  | _ => exact .inr (.inr ⟨rfl, fun _ => rfl⟩)

/-- An operation that carries the count comes from another such operation. -/
theorem Leads.retries (h : Leads s op op') (hop : op'.retries = true) : op.retries = true := by
  cases h with
  | setUpEnded => rfl
  | setUpRetry => rfl
  | lockEnded => rfl
  | lockRetry => rfl
  | _ => cases hop

/-- An assignment leads to none. -/
theorem Leads.not_retries_of_assign {tryNum : ℕ} (h : Leads s (.assign tryNum) op') :
    op'.retries = false := by
  cases h
  rfl

end

/-! ## Before the first subscription -/

section

variable {tr : List (Realtime × RealtimeAction)} {s s' : Realtime} {a : RealtimeAction}
  {out : List RealtimeEvent}

theorem testedEnds_snoc :
    testedEnds (tr ++ [(s, a)]) = testedEnds tr ++ (s.testedEnd a).toList := by
  rw [testedEnds, List.filterMap_append, ← testedEnds]
  cases h : s.testedEnd a <;> simp [h]

theorem slept_snoc : slept (tr ++ [(s, a)]) = slept tr ++ (s.sleptFor a).toList := by
  rw [slept, List.filterMap_append, ← slept]
  cases h : s.sleptFor a <;> simp [h]

/-- No end is found by a thread that has nothing to do. -/
theorem Realtime.testedEnd_of_idle (hi : s.pending .clientThread = []) :
    s.testedEnd a = none := by
  unfold Realtime.testedEnd
  split
  · rw [hi]
  · rfl

theorem connections_setConnection_of_none (hnone : ∀ c, s.connections c = none) (c c' : ℕ)
    (f : Connection → Connection) : (s.setConnection c f).connections c' = none := by
  show Function.update s.connections c ((s.connections c).map f) c' = none
  rw [hnone c, Option.map_none]
  by_cases hc : c' = c
  · rw [hc, Function.update_self]
  · rw [Function.update_of_ne hc, hnone c']

/-- Only dialing makes a connection. -/
theorem OpMoves.connections_of_none {r : Runner} {op : Op} {reply : Reply} {ops : List Op}
    (h : OpMoves s r op reply s' ops out) (hop : ∀ k, op ≠ .dial k)
    (hnone : ∀ c, s.connections c = none) (c : ℕ) : s'.connections c = none := by
  have hhandle : ∀ k connection, (s.assignHandle k connection).connections c = none := by
    intro k connection
    rw [Realtime.assignHandle.eq_def]
    split
    · exact connections_setConnection_of_none hnone _ c _
    · exact hnone c
  cases h with
  | assign tryNum k hk => rw [Realtime.connections_assign, hnone]
  | close k c' hc => exact connections_setConnection_of_none hnone _ c _
  | reset k => exact hhandle k none
  | keep k connection => exact hhandle k connection
  | dial k c' hc => exact absurd rfl (hop k)
  | clear => rw [Realtime.connections_clear, hnone]
  | releaseSubscription k => rw [Realtime.connections_release, hnone]
  | handle m => cases m <;> exact hnone c
  | releaseBroadcast =>
      unfold Realtime.dropBroadcast
      split <;> exact hnone c
  | _ => exact hnone c

/-- There has been no subscription. -/
structure Untouched (tr : List (Realtime × RealtimeAction)) (s : Realtime) : Prop where
  subscription : s.subscription = none
  connections : ∀ c, s.connections c = none
  idle : s.pending .clientThread = []
  ends : testedEnds tr = []

theorem Untouched.moves (h : Untouched tr s) (hbelongs : BelongsInv s)
    (hmoves : RealtimeMoves s a s' out) (ha : ∀ reply, a ≠ .run .broadcastThread reply) :
    Untouched (tr ++ [(s, a)]) s' := by
  refine ⟨?_, fun c => ?_, ?_, ?_⟩
  · rcases hmoves.subscription_cases with hsame | hnone | ⟨r, k, tryNum, rest, rfl, hp, -⟩
    · rw [hsame, h.subscription]
    · exact hnone
    · have hop := hbelongs r (.assign tryNum) (by rw [hp]; simp)
      cases r with
      | broadcastThread => exact absurd rfl (ha _)
      | clientThread => rw [h.idle] at hp; cases hp
      | stopper => cases hop
      | owner => cases hop
  · cases hmoves.objectMoves with
    | keep a hsub hsubs hcon => rw [hcon, h.connections c]
    | setPhase a c' phase hsub hsubs hcon =>
        rw [hcon]
        exact connections_setConnection_of_none h.connections c' c _
    | run r op reply rest t ops out hp hop =>
        have hbelong := hbelongs r op (by rw [hp]; simp)
        refine hop.connections_of_none (fun k hk => ?_) h.connections c
        rw [hk] at hbelong
        cases r with
        | broadcastThread => exact ha _ rfl
        | clientThread => rw [h.idle] at hp; cases hp
        | stopper => cases hbelong
        | owner => cases hbelong
  · rw [List.eq_nil_iff_forall_not_mem]
    intro op hop
    rcases hmoves.mem_pending hop with hold | hnew
    · rw [h.idle] at hold
      cases hold
    · cases hnew with
      | next hp hop' hmem => rw [h.idle] at hp; cases hp
      | callback hi hc halive hop' => rw [h.connections] at hc; cases hc
  · rw [testedEnds_snoc, Realtime.testedEnd_of_idle h.idle, h.ends]
    rfl

theorem Realtime.onWorld_pending_of_ne (w : World) {b : Action} {r : Runner}
    (hthread : r = .broadcastThread → b ≠ .encoderInfo false) (hstop : r = .stopper → b ≠ .stop) :
    (s.onWorld w b).pending r = s.pending r := by
  rw [Realtime.onWorld.eq_def]
  split
  · exact Realtime.push_pending_of_ne _ _ fun hr => hthread hr rfl
  · split
    · exact Realtime.push_pending_of_ne _ _ fun hr => hstop hr rfl
    · rfl
  · split <;> rfl
  · rfl

theorem Realtime.callback_pending_of_ne (k : ℕ) (ops : List Op) {r : Runner}
    (hr : r ≠ .clientThread) : (s.callback k ops).pending r = s.pending r := by
  unfold Realtime.callback
  split
  · exact Realtime.push_pending_of_ne _ _ hr
  · rfl

/-- What the broadcast thread has to do stays, but for its own operations and its creation. -/
theorem RealtimeMoves.pending_broadcastThread (h : RealtimeMoves s a s' out)
    (ha : ∀ reply, a ≠ .run .broadcastThread reply) (hcreate : a ≠ .world (.encoderInfo false)) :
    s'.pending .broadcastThread = s.pending .broadcastThread := by
  cases h with
  | world b w out hb hs =>
      refine Realtime.onWorld_pending_of_ne w (fun _ hc => ?_) fun hr => nomatch hr
      exact hcreate (congrArg RealtimeAction.world hc)
  | run r op reply rest t ops out hp hop =>
      have hr : Runner.broadcastThread ≠ r := by
        rintro rfl
        exact ha _ rfl
      rw [Realtime.push_pending_of_ne _ _ hr, hop.frame.pending,
        Realtime.pop_pending_of_ne _ _ hr]
  | opened c x hi hc hx => exact Realtime.callback_pending_of_ne _ _ (by decide)
  | ended c x endType hi hc hx => exact Realtime.callback_pending_of_ne _ _ (by decide)
  | message c m x hi hc hx => exact Realtime.callback_pending_of_ne _ _ (by decide)
  | drop hr =>
      rw [Realtime.push_pending_of_ne _ _ (by decide), (opFrame_dropBroadcast _ _).pending]
  | _ => rfl

/-- **The first subscription** is set up by the broadcast thread, as the first attempt. -/
structure SetupInv (tr : List (Realtime × RealtimeAction)) (s : Realtime) : Prop where
  created : s.world.startCall ≠ .returned → s.pending .broadcastThread = [] ∧ Untouched tr s
  assign : s.pending .broadcastThread = [.assign 1, .connectMember] ∧ Untouched tr s ∨
    ∀ tryNum, .assign tryNum ∉ s.pending .broadcastThread

/-- `start` that has returned has done so for good. -/
theorem RealtimeMoves.startCall_of_returned (h : RealtimeMoves s a s' out)
    (hc : s.world.startCall = .returned) : s'.world.startCall = .returned := by
  refine h.world_invariant (I := fun w => w.startCall = .returned) ?_ hc
  intro w b w' out' hw hmoves
  cases hmoves with
  | thread hthread => rw [hthread.startCall_eq, hw]
  | other a ha hcore hvideo hout => rw [hcore.startCall, hw]
  | start hc => rw [hw] at hc; cases hc
  | createThread hc => rfl
  | raise hc => rw [hw] at hc; cases hc
  | _ => exact hw

/-- The broadcast thread does an operation. -/
theorem SetupInv.run {op : Op} {reply : Reply} {rest : List Op} {t : Realtime}
    {ops : List Op} (h : SetupInv tr s) (hbelongs : BelongsInv s)
    (hp : s.pending .broadcastThread = op :: rest)
    (hop : OpMoves (s.pop .broadcastThread rest) .broadcastThread op reply t ops out)
    (hmoves : RealtimeMoves s a (t.push .broadcastThread ops) out) :
    SetupInv (tr ++ [(s, a)]) (t.push .broadcastThread ops) := by
  constructor
  · intro hc
    have hempty := (h.created fun hr => hc (hmoves.startCall_of_returned hr)).1
    rw [hp] at hempty
    cases hempty
  · right
    intro tryNum hmem
    rw [Realtime.push_pending_self, hop.frame.pending, Realtime.pop_pending_self,
      List.mem_append] at hmem
    rcases hmem with hnew | hrest
    · -- only an assignment could lead to it, and it leads to none
      have hleads := hop.leads hnew
      have hbelong := hbelongs .broadcastThread op (by rw [hp]; simp)
      have hretries := hleads.retries rfl
      cases op with
      | assign n => cases hleads.not_retries_of_assign
      | lockEnded n e => cases hbelong
      | testEnded n e => cases hbelong
      | lockRetry n => cases hbelong
      | testRetry n => cases hbelong
      | _ => cases hretries
    · rcases h.assign with ⟨hfirst, -⟩ | hnone
      · rw [hp, List.cons.injEq] at hfirst
        rw [hfirst.2] at hrest
        simp at hrest
      · exact hnone tryNum (by rw [hp]; exact List.mem_cons_of_mem op hrest)

/-- **Step lemma.** -/
theorem SetupInv.moves (h : SetupInv tr s) (hbelongs : BelongsInv s)
    (hmoves : RealtimeMoves s a s' out) : SetupInv (tr ++ [(s, a)]) s' := by
  by_cases hrun : ∃ reply, a = .run .broadcastThread reply
  · obtain ⟨reply, rfl⟩ := hrun
    cases hmoves with
    | run r op reply rest t ops out hp hop =>
        exact h.run hbelongs hp hop (.run _ op reply rest t ops out hp hop)
  have ha : ∀ reply, a ≠ .run .broadcastThread reply := fun reply hr => hrun ⟨reply, hr⟩
  by_cases hcreate : a = .world (.encoderInfo false)
  · subst hcreate
    cases hmoves with
    | world b w out hb hs =>
        obtain ⟨hc, hthread⟩ := of_encoderInfo hs
        obtain ⟨hempty, huntouched⟩ := h.created (by rw [hc]; decide)
        have hmoves : RealtimeMoves s (.world (.encoderInfo false))
            (s.onWorld w (.encoderInfo false)) (out.map .world) := .world _ w out hb hs
        have hpending : (s.onWorld w (.encoderInfo false)).pending .broadcastThread =
            [.assign 1, .connectMember] := by
          show (Realtime.push _ _ _).pending _ = _
          rw [Realtime.push_pending_self]
          show _ ++ s.pending .broadcastThread = _
          rw [hempty, List.append_nil]
        refine ⟨fun hne => absurd ?_ hne, .inl ⟨hpending, huntouched.moves hbelongs hmoves ha⟩⟩
        simp only [World.step, World.encoderInfoStep, hc, Bool.false_eq_true, if_false,
          Option.map_some, Option.some.injEq, Prod.mk.injEq] at hs
        rw [Realtime.onWorld_world, ← hs.1]
  · have hsame := hmoves.pending_broadcastThread ha hcreate
    constructor
    · intro hc
      obtain ⟨hempty, huntouched⟩ :=
        h.created fun hr => hc (hmoves.startCall_of_returned hr)
      exact ⟨by rw [hsame, hempty], huntouched.moves hbelongs hmoves ha⟩
    · rw [hsame]
      exact h.assign.imp_left fun hfirst =>
        ⟨hfirst.1, hfirst.2.moves hbelongs hmoves ha⟩

/-! ## The count in every run -/

/-- The waits so far are those that the ends so far ask for, and the count goes on from
there. -/
structure RetryInv (tr : List (Realtime × RealtimeAction)) (s : Realtime) : Prop where
  phase : RetryPhase (failedInARow (testedEnds tr)) s
    ((s.pending .clientThread).filter Op.retries)
  waits : slept tr ++ s.sleeping = retryDelays 0 (testedEnds tr)

/-- Only operations with the count have a wait before them. -/
theorem filterMap_delay_filter (l : List Op) :
    (l.filter Op.retries).filterMap Op.delay = l.filterMap Op.delay := by
  rw [List.filterMap_filter]
  congr 1
  funext op
  cases op <;> rfl

/-- A step that finds no end, ends no wait and leaves the operations with the count. -/
theorem RetryInv.keep (h : RetryInv tr s) (hends : s.testedEnd a = none)
    (hslept : s.sleptFor a = none)
    (hops : (s'.pending .clientThread).filter Op.retries =
      (s.pending .clientThread).filter Op.retries)
    (hphase : RetryPhase (failedInARow (testedEnds tr)) s
        ((s.pending .clientThread).filter Op.retries) →
      RetryPhase (failedInARow (testedEnds tr)) s'
        ((s.pending .clientThread).filter Op.retries)) : RetryInv (tr ++ [(s, a)]) s' := by
  constructor
  · rw [testedEnds_snoc, hends, Option.toList_none, List.append_nil, hops]
    exact hphase h.phase
  · have hsleeping : s'.sleeping = s.sleeping := by
      rw [Realtime.sleeping, Realtime.sleeping, ← filterMap_delay_filter, hops,
        filterMap_delay_filter]
    rw [testedEnds_snoc, hends, Option.toList_none, List.append_nil, slept_snoc, hslept,
      Option.toList_none, List.append_nil, hsleeping]
    exact h.waits

/-- The state of the broadcast is moved by the broadcast alone. -/
theorem RealtimeMoves.isRunning_of (h : RealtimeMoves s a s' out) (hworld : WorldInv s)
    (ha : a ≠ .world .start) (hr : s'.world.state.isRunning = true) :
    s.world.state.isRunning = true := by
  rcases h.world_cases with ⟨b, out', rfl, -, hs, -⟩ | ⟨ha', -⟩
  · have hstate := hworld.state.stateMoves (moves_of_step hs)
    generalize s'.world.state = st' at hstate hr
    generalize s.world.state = st at hstate
    cases hstate with
    | start => exact absurd rfl ha
    | stay st b => exact hr
    | goStreaming o => rfl
    | goLive o => rfl
    | stop st => cases hr
    | goOffline => cases hr
  · rwa [(h.sameCore ha').state] at hr

/-- **An operation of the websocket thread that does not carry the count.** -/
theorem RetryInv.other {op : Op} {reply : Reply} {rest : List Op} {t : Realtime} {ops : List Op}
    (h : RetryInv tr s) (hworld : WorldInv s) (hp : s.pending .clientThread = op :: rest)
    (hop : OpMoves (s.pop .clientThread rest) .clientThread op reply t ops out)
    (hnot : op.retries = false) :
    RetryInv (tr ++ [(s, .run .clientThread reply)]) (t.push .clientThread ops) := by
  have hnone : ops.filter Op.retries = [] := by
    rw [List.filter_eq_nil_iff]
    intro op' hmem hop'
    rw [(hop.leads hmem).retries hop'] at hnot
    cases hnot
  refine h.keep ?_ ?_ ?_ fun hphase => ?_
  · rw [Realtime.testedEnd, hp]
    cases op <;> first | rfl | cases hnot
  · rw [Realtime.sleptFor, hp]
    cases op <;> first | rfl | cases hnot
  · rw [Realtime.push_pending_self, hop.frame.pending, Realtime.pop_pending_self,
      List.filter_append, hnone, hp, List.nil_append, List.filter_cons_of_neg (by simp [hnot])]
  · refine hphase.congr (fun hr => ?_) ?_
    · have hmoves : RealtimeMoves s (.run .clientThread reply) (t.push .clientThread ops) out :=
        .run _ op reply rest t ops out hp hop
      exact hmoves.isRunning_of hworld (by simp) hr
    · rcases hop.tryNum_cases with ⟨tryNum, k, rfl, -⟩ | hcase
      · cases hnot
      · exact hcase

/-- The operation with the count is the only one. -/
theorem RetryInv.head {op : Op} {rest : List Op} (h : RetryInv tr s)
    (hp : s.pending .clientThread = op :: rest) (hop : op.retries = true) :
    rest.filter Op.retries = [] ∧ RetryPhase (failedInARow (testedEnds tr)) s [op] := by
  have hphase := h.phase
  rw [hp, List.filter_cons_of_pos hop] at hphase
  generalize rest.filter Op.retries = l at hphase ⊢
  cases hphase with
  | lockEnded tryNum endType hsub => exact ⟨rfl, .lockEnded tryNum endType hsub⟩
  | testEnded tryNum endType hsub => exact ⟨rfl, .testEnded tryNum endType hsub⟩
  | lockRetry => exact ⟨rfl, .lockRetry⟩
  | testRetry => exact ⟨rfl, .testRetry⟩
  | assign => exact ⟨rfl, .assign⟩

/-- **An operation of the websocket thread that carries the count.** -/
theorem RetryInv.carry {op : Op} {reply : Reply} {rest : List Op} {t : Realtime} {ops : List Op}
    (h : RetryInv tr s) (hp : s.pending .clientThread = op :: rest) (hop : op.retries = true)
    (hmoves : OpMoves (s.pop .clientThread rest) .clientThread op reply t ops out)
    (hdelay : ops.filterMap Op.delay =
      retryDelays (failedInARow (testedEnds tr)) (s.testedEnd (.run .clientThread reply)).toList)
    (hphase : RetryPhase
      (failedInARow (testedEnds tr ++ (s.testedEnd (.run .clientThread reply)).toList))
      (t.push .clientThread ops) (ops.filter Op.retries)) :
    RetryInv (tr ++ [(s, .run .clientThread reply)]) (t.push .clientThread ops) := by
  obtain ⟨hrest, -⟩ := h.head hp hop
  have hnone : rest.filterMap Op.delay = [] := by
    rw [← filterMap_delay_filter, hrest, List.filterMap_nil]
  have hpending : (t.push .clientThread ops).pending .clientThread = ops ++ rest := by
    rw [Realtime.push_pending_self, hmoves.frame.pending, Realtime.pop_pending_self]
  constructor
  · rw [testedEnds_snoc, hpending, List.filter_append, hrest, List.append_nil]
    exact hphase
  · have hbefore : s.sleeping = (s.sleptFor (.run .clientThread reply)).toList := by
      rw [Realtime.sleeping, Realtime.sleptFor, hp, List.head?_cons, Option.bind_some]
      cases hd : op.delay with
      | none => rw [List.filterMap_cons_none hd, hnone, Option.toList_none]
      | some n => rw [List.filterMap_cons_some hd, hnone, Option.toList_some]
    have hafter : (t.push .clientThread ops).sleeping =
        retryDelays (failedInARow (testedEnds tr))
          (s.testedEnd (.run .clientThread reply)).toList := by
      rw [Realtime.sleeping, hpending, List.filterMap_append, hnone, List.append_nil, hdelay]
    rw [slept_snoc, ← hbefore, h.waits, hafter, testedEnds_snoc, retryDelays_append]
    rfl

/-- Such an operation that finds no end leaves the count. -/
theorem RetryInv.pass {op : Op} {reply : Reply} {rest : List Op} {t : Realtime} {ops : List Op}
    (h : RetryInv tr s) (hp : s.pending .clientThread = op :: rest) (hop : op.retries = true)
    (hmoves : OpMoves (s.pop .clientThread rest) .clientThread op reply t ops out)
    (htested : s.testedEnd (.run .clientThread reply) = none)
    (hdelay : ops.filterMap Op.delay = [])
    (hphase : RetryPhase (failedInARow (testedEnds tr)) (t.push .clientThread ops)
      (ops.filter Op.retries)) :
    RetryInv (tr ++ [(s, .run .clientThread reply)]) (t.push .clientThread ops) := by
  refine h.carry hp hop hmoves ?_ ?_
  · rw [htested, hdelay]
    rfl
  · rwa [htested, Option.toList_none, List.append_nil]

/-- The new subscription carries the count. -/
theorem RetryInv.assign {reply : Reply} {rest : List Op} {t : Realtime} {ops : List Op}
    (h : RetryInv tr s)
    (hp : s.pending .clientThread = .assign (failedInARow (testedEnds tr) + 1) :: rest)
    (hop : OpMoves (s.pop .clientThread rest) .clientThread
      (.assign (failedInARow (testedEnds tr) + 1)) reply t ops out) :
    RetryInv (tr ++ [(s, .run .clientThread reply)]) (t.push .clientThread ops) := by
  have hnone : ops.filter Op.retries = [] := by
    rw [List.filter_eq_nil_iff]
    intro op' hmem hop'
    rw [(hop.leads hmem).not_retries_of_assign] at hop'
    cases hop'
  refine h.pass hp rfl hop (by rw [Realtime.testedEnd, hp]) ?_ ?_
  · rw [← filterMap_delay_filter, hnone]
    rfl
  · rw [hnone]
    refine .idle fun _ k hk => ?_
    cases hop with
    | assign tryNum k' hk' =>
        have hk : ((s.pop .clientThread rest).assign k' _).1.subscription = some k := hk
        rw [Realtime.assign_subscription] at hk
        rw [← Option.some.inj hk]
        exact tryNumOf_assign k' _

/-- The handler for an end goes on if the broadcast is there. -/
theorem RetryInv.lockEnded {tryNum : ℕ} {endType : ConnectionEndType} {reply : Reply}
    {rest : List Op} {t : Realtime} {ops : List Op} (h : RetryInv tr s)
    (hp : s.pending .clientThread = .lockEnded tryNum endType :: rest)
    (hop : OpMoves (s.pop .clientThread rest) .clientThread (.lockEnded tryNum endType) reply t
      ops out)
    (hsub : s.world.state.isRunning = true → tryNum = failedInARow (testedEnds tr) + 1 ∧
      ∀ k, s.subscription = some k → s.tryNumOf k = failedInARow (testedEnds tr) + 1) :
    RetryInv (tr ++ [(s, .run .clientThread reply)]) (t.push .clientThread ops) := by
  refine h.pass hp rfl hop (by rw [Realtime.testedEnd, hp]) ?_ ?_
  · cases hop
    split <;> rfl
  · cases hop
    split
    · exact .idle fun hr => (hsub hr).2
    · exact .testEnded tryNum endType hsub

/-- An end that is found while the broadcast is running is counted. -/
theorem RetryInv.testEnded {tryNum : ℕ} {endType : ConnectionEndType} {reply : Reply}
    {rest : List Op} {t : Realtime} {ops : List Op} (h : RetryInv tr s)
    (hp : s.pending .clientThread = .testEnded tryNum endType :: rest)
    (hop : OpMoves (s.pop .clientThread rest) .clientThread (.testEnded tryNum endType) reply t
      ops out)
    (hsub : s.world.state.isRunning = true → tryNum = failedInARow (testedEnds tr) + 1 ∧
      ∀ k, s.subscription = some k → s.tryNumOf k = failedInARow (testedEnds tr) + 1) :
    RetryInv (tr ++ [(s, .run .clientThread reply)]) (t.push .clientThread ops) := by
  have htested : s.testedEnd (.run .clientThread reply) =
      if s.world.state.isRunning then some endType else none := by
    rw [Realtime.testedEnd, hp]
  have hops : ops = (s.pop .clientThread rest).afterEnded tryNum endType ∧
      t = s.pop .clientThread rest := by
    cases hop
    exact ⟨rfl, rfl⟩
  obtain ⟨hops, rfl⟩ := hops
  by_cases hr : s.world.state.isRunning = true
  · obtain ⟨rfl, -⟩ := hsub hr
    have hr' : (s.pop .clientThread rest).world.state.isRunning = true := hr
    rw [Realtime.afterEnded.eq_def, if_pos hr'] at hops
    rw [if_pos hr] at htested
    subst hops
    cases endType with
    | closed =>
        refine h.carry hp rfl hop (by rw [htested]; rfl) ?_
        rw [htested, Option.toList_some, failedInARow, List.foldl_append]
        exact .assign
    | failed =>
        refine h.carry hp rfl hop (by rw [htested]; rfl) ?_
        rw [htested, Option.toList_some, failedInARow, List.foldl_append]
        exact .lockRetry
  · have hr' : ¬ (s.pop .clientThread rest).world.state.isRunning = true := hr
    rw [Realtime.afterEnded.eq_def, if_neg hr'] at hops
    rw [if_neg hr] at htested
    subst hops
    exact h.pass hp rfl hop htested rfl (.idle fun hr'' => absurd hr'' hr)

/-- After the wait the handler goes on if the broadcast is there. -/
theorem RetryInv.lockRetry {reply : Reply} {rest : List Op} {t : Realtime} {ops : List Op}
    (h : RetryInv tr s) (hstopped : s.destroyed = true → ¬ s.world.state.isRunning = true)
    (hp : s.pending .clientThread = .lockRetry (failedInARow (testedEnds tr)) :: rest)
    (hop : OpMoves (s.pop .clientThread rest) .clientThread
      (.lockRetry (failedInARow (testedEnds tr))) reply t ops out) :
    RetryInv (tr ++ [(s, .run .clientThread reply)]) (t.push .clientThread ops) := by
  refine h.pass hp rfl hop (by rw [Realtime.testedEnd, hp]) ?_ ?_
  · cases hop
    split <;> rfl
  · cases hop
    split
    · rename_i hd
      exact .idle fun hr => absurd hr (hstopped hd)
    · exact .testRetry

/-- A broadcast that is still running subscribes again. -/
theorem RetryInv.testRetry {reply : Reply} {rest : List Op} {t : Realtime} {ops : List Op}
    (h : RetryInv tr s)
    (hp : s.pending .clientThread = .testRetry (failedInARow (testedEnds tr)) :: rest)
    (hop : OpMoves (s.pop .clientThread rest) .clientThread
      (.testRetry (failedInARow (testedEnds tr))) reply t ops out) :
    RetryInv (tr ++ [(s, .run .clientThread reply)]) (t.push .clientThread ops) := by
  refine h.pass hp rfl hop (by rw [Realtime.testedEnd, hp]) ?_ ?_
  · cases hop
    unfold Realtime.afterRetry
    split <;> rfl
  · cases hop
    unfold Realtime.afterRetry
    split
    · exact .assign
    · rename_i hr
      exact .idle fun hr' => absurd hr' hr

/-- The websocket thread does an operation. -/
theorem RetryInv.run {op : Op} {reply : Reply} {rest : List Op} {t : Realtime} {ops : List Op}
    (h : RetryInv tr s) (hworld : WorldInv s) (hdestroyed : DestroyedInv s)
    (hp : s.pending .clientThread = op :: rest)
    (hop : OpMoves (s.pop .clientThread rest) .clientThread op reply t ops out) :
    RetryInv (tr ++ [(s, .run .clientThread reply)]) (t.push .clientThread ops) := by
  by_cases hretries : op.retries = true
  case neg => exact h.other hworld hp hop (by simpa using hretries)
  have hstopped : s.destroyed = true → ¬ s.world.state.isRunning = true := by
    intro hd
    rw [hworld.state.stopped (hworld.slot (hdestroyed hd).1)]
    exact Bool.noConfusion
  have hphase := (h.head hp hretries).2
  cases hphase with
  | assign => exact h.assign hp hop
  | lockEnded tryNum endType hsub => exact h.lockEnded hp hop hsub
  | testEnded tryNum endType hsub => exact h.testEnded hp hop hsub
  | lockRetry => exact h.lockRetry hstopped hp hop
  | testRetry => exact h.testRetry hp hop

theorem Realtime.quiet_of_ne (ha : ∀ reply, a ≠ .run .clientThread reply) :
    s.testedEnd a = none ∧ s.sleptFor a = none := by
  cases a with
  | run r reply =>
      cases r with
      | clientThread => exact absurd rfl (ha reply)
      | _ => exact ⟨rfl, rfl⟩
  | _ => exact ⟨rfl, rfl⟩

/-- A step of something else that leaves the broadcast and the member alone. -/
theorem RetryInv.of_same (h : RetryInv tr s) (ha : ∀ reply, a ≠ .run .clientThread reply)
    (hworld : s'.world = s.world) (hsub : s'.subscription = s.subscription)
    (hsubs : s'.subscriptions = s.subscriptions)
    (hops : (s'.pending .clientThread).filter Op.retries =
      (s.pending .clientThread).filter Op.retries) : RetryInv (tr ++ [(s, a)]) s' := by
  obtain ⟨hends, hslept⟩ := Realtime.quiet_of_ne ha
  refine h.keep hends hslept hops fun hphase => hphase.congr (fun hr => ?_) (.inr ⟨hsub, ?_⟩)
  · rwa [hworld] at hr
  · intro k
    rw [Realtime.tryNumOf, hsubs]
    rfl

/-- A handler that does not carry the count begins on the websocket thread. -/
theorem RetryInv.callback {k : ℕ} {op : Op} {t : Realtime} (h : RetryInv tr s)
    (ha : ∀ reply, a ≠ .run .clientThread reply) (hworld : t.world = s.world)
    (hsub : t.subscription = s.subscription) (hsubs : t.subscriptions = s.subscriptions)
    (hpending : t.pending = s.pending) (hop : op.retries = false) :
    RetryInv (tr ++ [(s, a)]) (t.callback k [op]) := by
  have hsame := sameObjects_callback t k [op]
  refine h.of_same ha ?_ (hsame.subscription.trans hsub) (hsame.subscriptions.trans hsubs) ?_
  · rw [Realtime.callback_world, hworld]
  · unfold Realtime.callback
    split
    · rw [Realtime.push_pending_self, hpending, List.filter_append, List.singleton_append,
        List.filter_cons_of_neg (by simp [hop])]
      rfl
    · rw [hpending]

/-- The handler for the end of a connection begins with the count of its subscription, which
is the member. -/
theorem RetryInv.ended {c k : ℕ} {endType : ConnectionEndType} {phase : ConnectionPhase}
    (h : RetryInv tr s) (href : RefInv s) (hi : s.pending .clientThread = []) :
    RetryInv (tr ++ [(s, .ended c)])
      ((s.setPhase c phase).callback k [.lockEnded (s.tryNumOf k) endType]) := by
  have ha : ∀ reply, RealtimeAction.ended c ≠ .run .clientThread reply := by simp
  unfold Realtime.callback
  split
  · rename_i halive
    have hrefers := href k halive
    rw [Realtime.refers_iff, hi] at hrefers
    have hmember : s.subscription = some k := hrefers.resolve_right List.not_mem_nil
    obtain ⟨hends, hslept⟩ := Realtime.quiet_of_ne (s := s) ha
    have hpending : (((s.setPhase c phase).push .clientThread
        ([.lockEnded (s.tryNumOf k) endType] ++ [.releaseSubscription k])).pending
        .clientThread) = [.lockEnded (s.tryNumOf k) endType, .releaseSubscription k] := by
      rw [Realtime.push_pending_self]
      show _ ++ s.pending .clientThread = _
      rw [hi]
      rfl
    constructor
    · rw [testedEnds_snoc, hends, Option.toList_none, List.append_nil, hpending]
      have hphase := h.phase
      rw [hi] at hphase
      cases hphase with
      | idle hsub =>
          exact .lockEnded _ endType fun hr => ⟨hsub hr k hmember, hsub hr⟩
    · have hsleeping : s.sleeping = [] := by
        rw [Realtime.sleeping, hi]
        rfl
      have hwaits := h.waits
      rw [hsleeping] at hwaits
      rw [testedEnds_snoc, hends, slept_snoc, hslept, Realtime.sleeping, hpending,
        Option.toList_none, List.append_nil, Option.toList_none, List.append_nil]
      exact hwaits
  · exact h.of_same ha rfl rfl rfl rfl

/-- A thread other than the websocket thread does an operation. -/
theorem RetryInv.elsewhere {r : Runner} {op : Op} {reply : Reply} {rest : List Op} {t : Realtime}
    {ops : List Op} (h : RetryInv tr s) (hsetup : SetupInv tr s) (hworld : WorldInv s)
    (hbelongs : BelongsInv s) (hr : r ≠ .clientThread) (hp : s.pending r = op :: rest)
    (hop : OpMoves (s.pop r rest) r op reply t ops out) :
    RetryInv (tr ++ [(s, .run r reply)]) (t.push r ops) := by
  have hpending : (t.push r ops).pending .clientThread = s.pending .clientThread := by
    rw [Realtime.push_pending_of_ne _ _ hr.symm, hop.frame.pending,
      Realtime.pop_pending_of_ne _ _ hr.symm]
  have ha : ∀ reply', RealtimeAction.run r reply ≠ .run .clientThread reply' := by
    rintro reply' heq
    exact hr (RealtimeAction.run.inj heq).1
  obtain ⟨hends, hslept⟩ := Realtime.quiet_of_ne (s := s) ha
  have hmoves : RealtimeMoves s (.run r reply) (t.push r ops) out :=
    .run r op reply rest t ops out hp hop
  refine h.keep hends hslept (by rw [hpending]) fun hphase => ?_
  rcases hop.tryNum_cases with ⟨tryNum, k, rfl, hsub, htry⟩ | hcase
  · -- the first subscription
    have hbelong := hbelongs r (.assign tryNum) (by rw [hp]; simp)
    have hthread : r = .broadcastThread := by
      cases r with
      | broadcastThread => rfl
      | clientThread => exact absurd rfl hr
      | stopper => cases hbelong
      | owner => cases hbelong
    subst hthread
    rcases hsetup.assign with ⟨hfirst, huntouched⟩ | hnone
    · rw [hp, List.cons.injEq, Op.assign.injEq] at hfirst
      rw [huntouched.idle, huntouched.ends]
      refine .idle fun _ k' hk => ?_
      have hk : t.subscription = some k' := hk
      rw [hsub] at hk
      rw [← Option.some.inj hk]
      exact htry.trans hfirst.1
    · exact absurd (by rw [hp]; exact List.mem_cons_self) (hnone tryNum)
  · exact hphase.congr (hmoves.isRunning_of hworld (by simp)) hcase

/-- **Step lemma.** -/
theorem RetryInv.moves (h : RetryInv tr s) (hsetup : SetupInv tr s) (hworld : WorldInv s)
    (hbelongs : BelongsInv s) (hdestroyed : DestroyedInv s) (href : RefInv s)
    (hmoves : RealtimeMoves s a s' out) : RetryInv (tr ++ [(s, a)]) s' := by
  cases hmoves with
  | world b w out hb hs =>
      have hmoves : RealtimeMoves s (.world b) (s.onWorld w b) (out.map .world) :=
        .world b w out hb hs
      have hsame := sameObjects_onWorld s w b
      have hpending : (s.onWorld w b).pending .clientThread = s.pending .clientThread :=
        Realtime.onWorld_pending_of_ne w (fun hr => nomatch hr) fun hr => nomatch hr
      refine h.keep rfl rfl (by rw [hpending]) fun hphase => ?_
      by_cases hstart : b = .start
      · -- before there is a subscription
        subst hstart
        have hc : s.world.startCall ≠ .returned := by
          intro hc
          simp [World.step, World.startStep, hc] at hs
        have huntouched := (hsetup.created hc).2
        rw [huntouched.idle]
        refine .idle fun _ k hk => ?_
        rw [hsame.subscription, huntouched.subscription] at hk
        cases hk
      · refine hphase.congr (hmoves.isRunning_of hworld fun heq => ?_)
          (.inr ⟨hsame.subscription, fun k => ?_⟩)
        · exact hstart (RealtimeAction.world.inj heq)
        · rw [Realtime.tryNumOf, hsame.subscriptions]
          rfl
  | run r op reply rest t ops out hp hop =>
      by_cases hr : r = .clientThread
      · subst hr
        exact h.run hworld hdestroyed hp hop
      · exact h.elsewhere hsetup hworld hbelongs hr hp hop
  | opened c x hi hc hx => exact h.callback (by simp) rfl rfl rfl rfl rfl
  | message c m x hi hc hx =>
      refine h.callback (by simp) rfl rfl rfl rfl ?_
      unfold Realtime.received
      split <;> rfl
  | ended c x endType hi hc hx => exact h.ended href hi
  | drop hr =>
      have hframe := opFrame_dropBroadcast { s with references := s.references - 1 } .owner
      refine h.of_same (by simp) ?_ ?_ ?_ ?_
      · exact Realtime.dropBroadcast_world _ _
      · exact Realtime.dropBroadcast_subscription _ _
      · unfold Realtime.dropBroadcast
        split <;> rfl
      · rw [Realtime.push_pending_of_ne _ _ (by decide), hframe.pending]
  | _ => exact h.of_same (by simp) rfl rfl rfl rfl

end

section

variable {feedId : String} {title gameId : Bytes} {rating : Rating}
  {tr : List (Realtime × RealtimeAction)} {es : List RealtimeEvent} {s : Realtime}

/-- **Run lemma.** -/
theorem RealtimeRuns.retryInv (h : RealtimeRuns feedId title rating gameId tr es s) :
    SetupInv tr s ∧ RetryInv tr s := by
  induction h with
  | refl =>
      refine ⟨⟨fun _ => ⟨rfl, rfl, fun _ => rfl, rfl, rfl⟩, .inr fun _ => List.not_mem_nil⟩, ?_,
        rfl⟩
      exact .idle fun _ _ hk => nomatch hk
  | snoc hrun hs ih =>
      have hrun : RealtimeRuns feedId title rating gameId _ _ _ := hrun
      have hmoves := realtimeMoves_of_step hs
      exact ⟨ih.1.moves hrun.belongsInv hmoves, ih.2.moves ih.1 hrun.worldInv hrun.belongsInv
        hrun.destroyedInv hrun.refInv hmoves⟩

/-- **The waits before the retries.**  In every run, the waits that are over and the one under
way are those that the ends found so far ask for: two seconds after the first connection that
has failed, one more after each further one in a row, twenty at most, and none after a
connection that was closed, which begins the count again. -/
theorem retries_back_off (h : RealtimeRuns feedId title rating gameId tr es s) :
    slept tr ++ s.sleeping = retryDelays 0 (testedEnds tr) :=
  h.retryInv.2.waits

end

/-- Connection `0` fails, and after a wait a second attempt is made on connection `1`, which
fails too. -/
def failTwiceActions : List RealtimeAction :=
  setupActions ++ [.terminated 0, .ended 0] ++
    clientActions ([.success, .success, .success, .success, .success, .fresh 1, .success, .success,
      .fresh 1] ++ List.replicate 5 .success) ++
    [.terminated 1, .ended 1] ++ clientActions [.success, .success]

/-- The wait of two seconds is over, and that of three is under way. -/
theorem retries_back_off_failTwice :
    ∃ tr es s, RealtimeRuns "feed" [] .none [] tr es s ∧ tr.map Prod.snd = failTwiceActions ∧
      testedEnds tr = [.failed, .failed] ∧ s.sleeping = [3] ∧ slept tr ++ s.sleeping = [2, 3] := by
  obtain ⟨s, es, hexec, hends, hsleeping⟩ : ∃ s es,
      realtimeMachine.exec (.init "feed" [] .none []) failTwiceActions = some (s, es) ∧
      testedEnds (realtimeMachine.trace (.init "feed" [] .none []) failTwiceActions) =
        [.failed, .failed] ∧ s.sleeping = [3] :=
    ⟨_, _, rfl, by decide, rfl⟩
  have hwaits := retries_back_off (Machine.Run.of_exec hexec)
  rw [hends] at hwaits
  exact ⟨_, es, s, .of_exec hexec, Machine.map_snd_trace hexec, hends, hsleeping, hwaits⟩

end Caff
