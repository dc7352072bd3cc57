/-
# Connections the client closes itself

`GraphqlSubscription::connect` first closes the connection it has.  The callbacks of a
connection are bound to the subscription, so when that close completes the subscription,
which is still there, takes the end for one of the connection it has by then, and its
`endedHandler` sets up another subscription.  The destructor closes the connection too, but
then the callbacks find no subscription any more.  So `endedHandler` stays away from what the
client has closed if `connect` finds no connection to close, as long as the broadcast holds
the subscription.

Every call of `connect` makes one new connection, or fails to.
-/
import Caffeine.RealtimeMoves

namespace Caff

/-! ## Whose connection it is -/

/-- Connection `c` is one of subscription `k`. -/
def Realtime.OwnedBy (s : Realtime) (c k : ℕ) : Prop :=
  ∃ x, s.connections c = some x ∧ x.subscription = k

/-- Subscription `k` has been made, and the broadcast does not hold it any more. -/
structure Realtime.LetGo (s : Realtime) (k : ℕ) : Prop where
  made : (s.subscriptions k).isSome = true
  member : s.subscription ≠ some k

/-- The handles of a subscription are those of its connections. -/
structure HandleInv (s : Realtime) : Prop where
  held : ∀ k c, s.handleOf k = some c → s.OwnedBy c k
  kept : ∀ r k c, .keep k (some c) ∈ s.pending r → s.OwnedBy c k

namespace Realtime

variable {s : Realtime} {k k' c c' : ℕ}

theorem isSome_setSubscription (s : Realtime) (k k' : ℕ) (f : Subscription → Subscription) :
    ((s.setSubscription k' f).subscriptions k).isSome = (s.subscriptions k).isSome := by
  unfold setSubscription
  by_cases hk : k = k'
  · subst hk
    simp
  · simp [hk]

theorem isSome_release (s : Realtime) (k k' : ℕ) :
    ((s.release k').1.subscriptions k).isSome = (s.subscriptions k).isSome := by
  unfold release
  split
  · rfl
  · rw [isSome_setSubscription]

theorem isSome_assignHandle (s : Realtime) (k k' : ℕ) (connection : Option ℕ) :
    ((s.assignHandle k' connection).subscriptions k).isSome = (s.subscriptions k).isSome := by
  rw [assignHandle.eq_def]
  split <;> rw [isSome_setSubscription]
  rfl

theorem handleOf_setSubscription (s : Realtime) (k k' : ℕ) (f : Subscription → Subscription) :
    (s.setSubscription k f).handleOf k' =
      if k' = k then (s.subscriptions k).bind fun x => (f x).connection else s.handleOf k' := by
  rw [handleOf, Realtime.setSubscription]
  by_cases hk : k' = k
  · subst hk
    rw [if_pos rfl]
    show (Function.update s.subscriptions k' ((s.subscriptions k').map f) k').bind
      (·.connection) = _
    rw [Function.update_self]
    rcases s.subscriptions k' with _ | x <;> rfl
  · simp [hk, handleOf]

@[simp] theorem handleOf_release (s : Realtime) (k k' : ℕ) :
    (s.release k).1.handleOf k' = s.handleOf k' := by
  unfold release
  split
  · rfl
  · rw [handleOf_setSubscription]
    split
    · rename_i hk
      rw [hk]
      rfl
    · rfl

/-- A new handle of subscription `k` is the one assigned. -/
theorem handleOf_assignHandle {connection : Option ℕ}
    (h : (s.assignHandle k connection).handleOf k' = some c) :
    s.handleOf k' = some c ∨ k' = k ∧ connection = some c := by
  rw [assignHandle.eq_def] at h
  split at h <;> rw [handleOf_setSubscription] at h <;> split at h
  · rename_i hk
    obtain ⟨x, -, hx⟩ := Option.bind_eq_some_iff.mp h
    exact .inr ⟨hk, hx⟩
  · exact .inl h
  · rename_i hk
    obtain ⟨x, -, hx⟩ := Option.bind_eq_some_iff.mp h
    exact .inr ⟨hk, hx⟩
  · exact .inl h

end Realtime

/-! ## One operation -/

section

variable {s s' : Realtime} {r : Runner} {op : Op} {reply : Reply} {ops : List Op}
  {out : List RealtimeEvent}

/-- A subscription does not come back. -/
theorem OpMoves.letGo (h : OpMoves s r op reply s' ops out) {k : ℕ} (hk : s.LetGo k) :
    s'.LetGo k := by
  obtain ⟨hmade, hmember⟩ := hk
  cases h with
  | assign tryNum k' hnew =>
      have hne : k' ≠ k := by
        rintro rfl
        rw [hnew] at hmade
        cases hmade
      constructor
      · rw [Realtime.assign.eq_def]
        split
        · rw [Realtime.isSome_release]
          simpa [Ne.symm hne] using hmade
        · simpa [Ne.symm hne] using hmade
      · rw [Realtime.assign_subscription]
        simpa using hne
  | clear =>
      constructor
      · rw [Realtime.clear.eq_def]
        split
        · rw [Realtime.isSome_release]
          exact hmade
        · exact hmade
      · rw [Realtime.clear_subscription]
        simp
  | reset k' =>
      constructor
      · rwa [Realtime.isSome_assignHandle]
      · rwa [Realtime.assignHandle_subscription]
  | keep k' connection =>
      constructor
      · rwa [Realtime.isSome_assignHandle]
      · rwa [Realtime.assignHandle_subscription]
  | releaseSubscription k' =>
      constructor
      · rwa [Realtime.isSome_release]
      · rwa [Realtime.release_subscription]
  | handle m => cases m <;> exact ⟨hmade, hmember⟩
  | releaseBroadcast =>
      unfold Realtime.dropBroadcast
      split <;> exact ⟨hmade, hmember⟩
  | _ => exact ⟨hmade, hmember⟩

/-- A handle is kept by the operation that does so. -/
theorem OpMoves.handleOf (h : OpMoves s r op reply s' ops out) {k c : ℕ}
    (hc : s'.handleOf k = some c) : s.handleOf k = some c ∨ op = .keep k (some c) := by
  cases h with
  | assign tryNum k' hk =>
      left
      have hnew : ∀ t : Realtime, t.subscriptions = Function.update s.subscriptions k'
          (some { tryNum }) → t.handleOf k = some c → s.handleOf k = some c := by
        intro t ht h
        rw [Realtime.handleOf, ht] at h
        by_cases hkk : k = k'
        · subst hkk
          simp at h
        · rwa [Function.update_of_ne hkk] at h
      rw [Realtime.assign.eq_def] at hc
      split at hc
      · rw [Realtime.handleOf_release] at hc
        exact hnew _ rfl hc
      · exact hnew _ rfl hc
  | clear =>
      rw [Realtime.clear.eq_def] at hc
      split at hc
      · rw [Realtime.handleOf_release] at hc
        exact .inl hc
      · exact .inl hc
  | reset k' => exact .inl ((Realtime.handleOf_assignHandle hc).resolve_right (by simp))
  | keep k' connection =>
      rcases Realtime.handleOf_assignHandle hc with hold | ⟨rfl, rfl⟩
      · exact .inl hold
      · exact .inr rfl
  | releaseSubscription k' =>
      rw [Realtime.handleOf_release] at hc
      exact .inl hc
  | handle m => cases m <;> exact .inl hc
  | releaseBroadcast =>
      unfold Realtime.dropBroadcast at hc
      split at hc <;> exact .inl hc
  | _ => exact .inl hc

theorem Leads.of_keep {k : ℕ} {connection : Option ℕ} (h : Leads s op (.keep k connection)) :
    op = .dial k := by
  cases h with
  | dial k connection => rfl
  | setUpEnded tryNum endType _ hrun hop => rcases hop with hop | hop | hop <;> cases hop
  | setUpRetry tryNum _ hrun hop => rcases hop with hop | hop <;> cases hop

/-- What is to be kept is a connection just made. -/
theorem OpMoves.ownedBy_of_keep (h : OpMoves s r op reply s' ops out) {k c : ℕ}
    (hmem : .keep k (some c) ∈ ops) : s'.OwnedBy c k := by
  obtain rfl := (h.leads hmem).of_keep
  cases h with
  | dial k c' hc =>
      obtain rfl : c = c' := by simpa using hmem
      exact ⟨{ subscription := k }, by simp, rfl⟩
  | dialFails k => simp at hmem

end

/-! ## One step -/

section

variable {s s' : Realtime} {a : RealtimeAction} {out : List RealtimeEvent}

/-- A connection stays with its subscription. -/
theorem RealtimeMoves.ownedBy (h : RealtimeMoves s a s' out) {c k : ℕ}
    (howned : s.OwnedBy c k) : s'.OwnedBy c k := by
  obtain ⟨x, hx, rfl⟩ := howned
  obtain ⟨x', hx', hbecomes⟩ := h.becomes hx
  exact ⟨x', hx', hbecomes.subscription⟩

theorem RealtimeMoves.letGo (h : RealtimeMoves s a s' out) {k : ℕ} (hk : s.LetGo k) :
    s'.LetGo k := by
  cases h.objectMoves with
  | run r op reply rest t ops out hp hop =>
      have hpop : (s.pop r rest).LetGo k := ⟨hk.made, hk.member⟩
      obtain ⟨hmade, hmember⟩ := hop.letGo hpop
      exact ⟨hmade, hmember⟩
  | setPhase a c phase hsub hsubs hcon =>
      constructor
      · rw [hsubs]
        exact hk.made
      · rw [hsub]
        exact hk.member
  | keep a hsub hsubs hcon =>
      constructor
      · rw [hsubs]
        exact hk.made
      · rw [hsub]
        exact hk.member

theorem RealtimeMoves.handleOf (h : RealtimeMoves s a s' out) {k c : ℕ}
    (hc : s'.handleOf k = some c) :
    s.handleOf k = some c ∨ ∃ r rest, s.pending r = .keep k (some c) :: rest := by
  have hkeep : s'.subscriptions = s.subscriptions → s.handleOf k = some c := by
    intro hsubs
    unfold Realtime.handleOf at hc
    rwa [hsubs] at hc
  cases h.objectMoves with
  | run r op reply rest t ops out hp hop =>
      rcases hop.handleOf hc with hold | rfl
      · exact .inl hold
      · exact .inr ⟨r, rest, hp⟩
  | setPhase a c' phase hsub hsubs hcon => exact .inl (hkeep hsubs)
  | keep a hsub hsubs hcon => exact .inl (hkeep hsubs)

/-- Only an operation gives a handle to keep. -/
theorem Posted.exists_run_of_keep {r : Runner} {k : ℕ} {connection : Option ℕ}
    (h : Posted s a r (.keep k connection)) : ∃ reply, a = .run r reply := by
  cases h with
  | createThread op hc hop => rcases hop with hop | hop <;> cases hop
  | next hp hop hmem => exact ⟨_, rfl⟩
  | callback hi hc halive hop =>
      rcases hop with hop | ⟨tryNum, endType, hop⟩ | ⟨m, hop⟩ | hop
      · cases hop
      · cases hop
      · unfold Realtime.received at hop
        split at hop <;> cases hop
      · cases hop

theorem RealtimeMoves.ownedBy_of_keep (h : RealtimeMoves s a s' out) {r : Runner} {k c : ℕ}
    (hmem : .keep k (some c) ∈ s'.pending r) : .keep k (some c) ∈ s.pending r ∨ s'.OwnedBy c k := by
  rcases h.mem_pending hmem with hold | hnew
  · exact .inl hold
  obtain ⟨reply, rfl⟩ := hnew.exists_run_of_keep
  cases h with
  | run r op reply rest t ops out hp hop =>
      rcases hop.mem_push hp hmem with ⟨-, hops⟩ | hold
      · exact .inr (hop.ownedBy_of_keep hops)
      · exact .inl hold

/-- **Step lemma.** -/
theorem HandleInv.moves (h : HandleInv s) (hmoves : RealtimeMoves s a s' out) : HandleInv s' := by
  constructor
  · intro k c hc
    rcases hmoves.handleOf hc with hold | ⟨r, rest, hp⟩
    · exact hmoves.ownedBy (h.held k c hold)
    · exact hmoves.ownedBy (h.kept r k c (by rw [hp]; simp))
  · intro r k c hmem
    rcases hmoves.ownedBy_of_keep hmem with hold | hnew
    · exact hmoves.ownedBy (h.kept r k c hold)
    · exact hnew

/-! ## Closed by the client -/

/-- The subscription that the operation disconnects. -/
def Op.disconnects : Op → Option ℕ
  | .close k => some k
  | _ => none

/-- The subscription that the broadcast holds has no connection to close when it connects:
what disconnects with a connection is the destructor, or the broadcast has let go of it. -/
def ConnectsUnconnected (s : Realtime) (a : RealtimeAction) : Prop :=
  ∀ r, a = .run r .success → ∀ k ∈ (s.pending r).head?.bind Op.disconnects,
    s.subscription = some k → s.handleOf k = none

instance (s : Realtime) (a : RealtimeAction) : Decidable (ConnectsUnconnected s a) :=
  inferInstanceAs (Decidable (∀ _, _))

/-- What the client has closed belongs to a subscription that the broadcast has let go of. -/
def DisconnectInv (es : List RealtimeEvent) (s : Realtime) : Prop :=
  ∀ c, .disconnected c ∈ es → ∃ k, s.OwnedBy c k ∧ s.LetGo k

/-- A connection is closed for the subscription that is disconnected. -/
theorem closes_of_disconnected {c : ℕ} (h : Shows s a (.disconnected c)) :
    ∃ r k, a = .run r .success ∧ k ∈ (s.pending r).head?.bind Op.disconnects ∧
      s.handleOf k = some c := by
  cases h with
  | @run r _ _ _ rest hp hop =>
      cases hop with
      | disconnected k c hc =>
          refine ⟨r, k, rfl, ?_, hc⟩
          rw [hp]
          rfl

/-- **Step lemma.** -/
theorem DisconnectInv.moves {es : List RealtimeEvent} (h : DisconnectInv es s) (hh : HandleInv s)
    (hconnect : ConnectsUnconnected s a) (hmoves : RealtimeMoves s a s' out) :
    DisconnectInv (es ++ out) s' := by
  intro c hmem
  have hpersist : ∀ k, s.OwnedBy c k → s.LetGo k → ∃ k, s'.OwnedBy c k ∧ s'.LetGo k :=
    fun k howned hk => ⟨k, hmoves.ownedBy howned, hmoves.letGo hk⟩
  rcases List.mem_append.mp hmem with hold | hnew
  · obtain ⟨k, howned, hk⟩ := h c hold
    exact hpersist k howned hk
  · obtain ⟨r, k, rfl, hclose, hc⟩ := closes_of_disconnected (hmoves.shows hnew)
    apply hpersist k (hh.held k c hc)
    constructor
    · unfold Realtime.handleOf at hc
      obtain ⟨x, hx, -⟩ := Option.bind_eq_some_iff.mp hc
      rw [hx]
      rfl
    · intro hmember
      rw [hconnect r rfl k hclose hmember] at hc
      cases hc

/-- `endedHandler` is called for a connection of the subscription that the broadcast
holds. -/
theorem ended_of_endedHandler {c : ℕ} (h : Shows s a (.endedHandler c)) (href : RefInv s) :
    a = .ended c ∧ ∃ k, s.OwnedBy c k ∧ s.subscription = some k := by
  cases h with
  | @endedHandler c x hi hc halive =>
      -- no handler holds another
      have hrefers := Realtime.refers_iff.mp (href _ halive)
      rw [hi] at hrefers
      exact ⟨rfl, _, ⟨x, hc, rfl⟩, hrefers.resolve_right (by simp)⟩
  | run rest hp hop => cases hop

end

/-! ## Calls of `connect` -/

/-- A connection is made for subscription `k`, or cannot be. -/
def RealtimeEvent.dials (k : ℕ) : RealtimeEvent → Bool
  | .dialed k' _ | .dialFailed k' => k' = k
  | _ => false

/-- `connect` is called on subscription `k`. -/
def RealtimeEvent.connects (k : ℕ) : RealtimeEvent → Bool
  | .setUp k' | .refreshed k' => k' = k
  | _ => false

namespace Realtime

/-- The connections that are still to be made for subscription `k`. -/
def dialsPending (s : Realtime) (k : ℕ) : ℕ :=
  (s.pending .broadcastThread).count (.dial k) + (s.pending .clientThread).count (.dial k) +
    (s.pending .stopper).count (.dial k) + (s.pending .owner).count (.dial k)

theorem dialsPending_congr {s s' : Realtime} (h : s'.pending = s.pending) (k : ℕ) :
    s'.dialsPending k = s.dialsPending k := by
  rw [dialsPending, dialsPending, h]

theorem dialsPending_push (s : Realtime) (r : Runner) (ops : List Op) (k : ℕ) :
    (s.push r ops).dialsPending k = s.dialsPending k + ops.count (.dial k) := by
  cases r <;> simp [dialsPending, push] <;> omega

theorem dialsPending_pop {s : Realtime} {r : Runner} {op : Op} {rest : List Op}
    (hp : s.pending r = op :: rest) (k : ℕ) :
    s.dialsPending k = (s.pop r rest).dialsPending k + [op].count (.dial k) := by
  cases r <;> simp [dialsPending, pop, hp, List.count_cons] <;> omega

theorem dialsPending_callback (s : Realtime) (k k' : ℕ) {ops : List Op} (h : .dial k ∉ ops) :
    (s.callback k' ops).dialsPending k = s.dialsPending k := by
  unfold callback
  split
  · rw [dialsPending_push, List.count_append, List.count_eq_zero_of_not_mem h]
    rfl
  · rfl

theorem dialsPending_onWorld (s : Realtime) (w : World) (b : Action) (k : ℕ) :
    (s.onWorld w b).dialsPending k = s.dialsPending k := by
  rw [onWorld.eq_def]
  split
  · rw [dialsPending_push]
    rfl
  · split
    · rw [dialsPending_push]
      rfl
    · rfl
  · split <;> rfl
  · rfl

end Realtime

section

variable {s s' : Realtime} {a : RealtimeAction} {out : List RealtimeEvent}

/-- An operation makes a connection or leaves one to be made by what comes after it, for a
call of `connect` or in place of the operation itself. -/
theorem OpMoves.dials {r : Runner} {op : Op} {reply : Reply} {ops : List Op}
    (h : OpMoves s r op reply s' ops out) (k : ℕ) :
    ops.count (.dial k) + out.countP (RealtimeEvent.dials k) =
      [op].count (.dial k) + out.countP (RealtimeEvent.connects k) := by
  have hcount : (∀ op' ∈ ops, ∃ k', op' = .close k') → ops.count (.dial k) = 0 := by
    intro hall
    apply List.count_eq_zero_of_not_mem
    intro hmem
    obtain ⟨k', hk⟩ := hall _ hmem
    cases hk
  cases h with
  | assign tryNum k' hk =>
      rw [hcount fun _ => Realtime.eq_close_of_mem_assign]
      rfl
  | clear =>
      rw [hcount fun _ => Realtime.eq_close_of_mem_clear]
      rfl
  | releaseSubscription k' =>
      rw [hcount fun _ hmem => ⟨k', Realtime.eq_close_of_mem_release hmem⟩]
      rfl
  | testEnded tryNum endType =>
      rw [List.count_eq_zero_of_not_mem fun hmem => ?_]
      · rfl
      · cases leads_of_mem_afterEnded hmem with
        | setUpEnded _ _ _ hrun hop => rcases hop with hop | hop | hop <;> cases hop
  | testRetry tryNum =>
      rw [List.count_eq_zero_of_not_mem fun hmem => ?_]
      · rfl
      · cases leads_of_mem_afterRetry hmem with
        | setUpRetry _ _ hrun hop => rcases hop with hop | hop <;> cases hop
  | handle m =>
      simp [List.countP_map, RealtimeEvent.dials, RealtimeEvent.connects, Function.comp_def]
  | releaseBroadcast => rcases s.dropBroadcast_cases r with ⟨heq, -⟩ | ⟨heq, -⟩ <;> rw [heq] <;> rfl
  | lockEnded tryNum endType => split <;> simp
  | lockRetry tryNum => split <;> simp
  | lockMessage m => split <;> simp
  | _ => simp [RealtimeEvent.dials, RealtimeEvent.connects, List.count_cons]

/-- **Step lemma.** -/
theorem RealtimeMoves.dials (h : RealtimeMoves s a s' out) (k : ℕ) :
    s'.dialsPending k + out.countP (RealtimeEvent.dials k) =
      s.dialsPending k + out.countP (RealtimeEvent.connects k) := by
  have hphase : ∀ c phase, (s.setPhase c phase).dialsPending k = s.dialsPending k :=
    fun _ _ => Realtime.dialsPending_congr rfl k
  cases h with
  | world b w out hb hs =>
      rw [Realtime.dialsPending_onWorld]
      simp [List.countP_map, RealtimeEvent.dials, RealtimeEvent.connects, Function.comp_def]
  | run r op reply rest t ops out hp hop =>
      have hdials := hop.dials k
      rw [Realtime.dialsPending_push, Realtime.dialsPending_congr hop.frame.pending,
        Realtime.dialsPending_pop hp]
      omega
  | opened c x hi hc hx => rw [Realtime.dialsPending_callback _ _ _ (by simp), hphase]; rfl
  | ended c x endType hi hc hx =>
      rw [Realtime.dialsPending_callback _ _ _ (by simp), hphase]
      split <;> rfl
  | message c m x hi hc hx =>
      rw [Realtime.dialsPending_callback _ _ _ fun hmem => ?_]
      · rfl
      · have heq := List.mem_singleton.mp hmem
        unfold Realtime.received at heq
        split at heq <;> cases heq
  | drop hr =>
      unfold Realtime.dropBroadcast
      split <;> rw [Realtime.dialsPending_push] <;> rfl
  | _ => rfl

end

/-! ## Every run -/

section

variable {feedId : String} {title gameId : Bytes} {rating : Rating}
  {tr : List (Realtime × RealtimeAction)} {es : List RealtimeEvent} {s : Realtime}

/-- **Run lemmas.** -/
theorem RealtimeRuns.handleInv (h : RealtimeRuns feedId title rating gameId tr es s) :
    HandleInv s :=
  Machine.Run.invariant (I := HandleInv)
    ⟨fun _ _ hc => (by cases hc), fun _ _ _ hmem => (by cases hmem)⟩
    (fun _ _ _ _ hi hs => hi.moves (realtimeMoves_of_step hs)) h

theorem RealtimeRuns.disconnectInv (h : RealtimeRuns feedId title rating gameId tr es s)
    (hconnect : Machine.Meets ConnectsUnconnected tr) : DisconnectInv es s := by
  induction h with
  | refl => exact fun _ hmem => by cases hmem
  | @snoc t t' tr es out a hrun hs ih =>
      have hrun : RealtimeRuns feedId title rating gameId tr es t := hrun
      obtain ⟨htr, hcond⟩ := Machine.meets_snoc.mp hconnect
      exact (ih htr).moves hrun.handleInv hcond (realtimeMoves_of_step hs)

theorem RealtimeRuns.dials (h : RealtimeRuns feedId title rating gameId tr es s) (k : ℕ) :
    es.countP (RealtimeEvent.dials k) + s.dialsPending k =
      es.countP (RealtimeEvent.connects k) := by
  refine Machine.Run.induction_on_trace (I := fun _ es s =>
    es.countP (RealtimeEvent.dials k) + s.dialsPending k =
      es.countP (RealtimeEvent.connects k)) rfl ?_ h
  intro _ es s a s' out ih hs
  have hstep := (realtimeMoves_of_step hs).dials k
  rw [List.countP_append, List.countP_append]
  omega

/-- **No reconnect for what the client has closed.**  In every run in which the subscription
that the broadcast holds never has a connection to close when it connects, `endedHandler` is
never called for a connection that the client has closed before.  And each call of `connect`,
as after a refresh, makes one connection or fails to: the two are as many, but for the
connections that are still to be made. -/
theorem endedHandler_of_disconnected (h : RealtimeRuns feedId title rating gameId tr es s)
    (hconnect : Machine.Meets ConnectsUnconnected tr) :
    (∀ l₁ l₂ c, es = l₁ ++ .endedHandler c :: l₂ → .disconnected c ∉ l₁) ∧
    ∀ k, es.countP (RealtimeEvent.dials k) + s.dialsPending k =
      es.countP (RealtimeEvent.connects k) := by
  refine ⟨fun l₁ l₂ c hes hmem => ?_, fun k => h.dials k⟩
  obtain ⟨tr₁, tr₂, es', t, a, t', out₁, out₂, htr, hrun, hs, hl⟩ := h.exists_step_of_output hes
  have hrun : RealtimeRuns feedId title rating gameId tr₁ es' t := hrun
  have hmoves := realtimeMoves_of_step hs
  have hended : Shows t a (.endedHandler c) := hmoves.shows (by simp)
  obtain ⟨rfl, k, ⟨x, hx, rfl⟩, hmember⟩ := ended_of_endedHandler hended hrun.refInv
  -- the step disconnects nothing
  have hmem : .disconnected c ∈ es' := by
    rw [hl] at hmem
    apply (List.mem_append.mp hmem).resolve_right
    intro hfirst
    cases hmoves.shows (List.mem_append_left _ hfirst)
  rw [htr] at hconnect
  -- the broadcast would have let go of its subscription
  obtain ⟨k, ⟨y, hy, rfl⟩, hk⟩ := hrun.disconnectInv hconnect.of_append c hmem
  rw [hx] at hy
  cases hy
  exact hk.member hmember

end

/-- The websocket thread does its operations. -/
def clientActions (replies : List Reply) : List RealtimeAction :=
  replies.map (.run .clientThread)

/-- The websocket thread runs the callback for an opened connection. -/
def openedActions (c : ℕ) : List RealtimeAction :=
  .opened c :: clientActions [.success, .success]

/-- The credential expires and is refreshed; `connect` closes connection `0` and makes
connection `1`; then the close completes. -/
def refreshActions : List RealtimeAction :=
  setupActions ++ openedActions 0 ++ [.message 0 (.errors ["credential expired"])] ++
    clientActions
      [.success, .success, .success, .success, .success, .fresh 1, .success, .success] ++
    [.terminated 0, .ended 0]

theorem not_endedHandler_of_disconnected_refresh :
    ¬ ∀ feedId title rating gameId tr es s, RealtimeRuns feedId title rating gameId tr es s →
      ∀ l₁ l₂ c, es = l₁ ++ .endedHandler c :: l₂ → .disconnected c ∉ l₁ := by
  obtain ⟨s, es, hexec, l₁, hes, hmem⟩ : ∃ s es,
      realtimeMachine.exec (.init "feed" [] .none []) refreshActions = some (s, es) ∧
      ∃ l₁, es = l₁ ++ [.endedHandler 0] ∧ .disconnected 0 ∈ l₁ :=
    ⟨_, _, rfl, [.created 0, .setUp 0, .dialed 0 0, .credentialsUsed, .credentialsUsed,
      .credentialsUsed, .refreshed 0, .disconnected 0, .dialed 0 1], rfl, by decide⟩
  intro hall
  exact hall "feed" [] .none [] _ es s (.of_exec hexec) l₁ [] 0 hes hmem

/-- The peer closes connection `0`, and `endedHandler` sets up another subscription, whose
assignment destroys the first. -/
def closedByPeerActions : List RealtimeAction :=
  setupActions ++ openedActions 0 ++ [.peerClosed 0, .terminated 0, .ended 0] ++
    clientActions [.success, .success, .fresh 1, .success, .success, .fresh 1, .success, .success,
      .success, .success, .success]

theorem endedHandler_of_disconnected_closedByPeer :
    ∃ tr es s, RealtimeRuns "feed" [] .none [] tr es s ∧ tr.map Prod.snd = closedByPeerActions ∧
      .endedHandler 0 ∈ es ∧ s.pending .clientThread = [] ∧
      ∀ l₁ l₂ c, es = l₁ ++ .endedHandler c :: l₂ → .disconnected c ∉ l₁ := by
  obtain ⟨s, es, hexec, hes, hs⟩ : ∃ s es,
      realtimeMachine.exec (.init "feed" [] .none []) closedByPeerActions = some (s, es) ∧
      .endedHandler 0 ∈ es ∧ s.pending .clientThread = [] :=
    ⟨_, _, rfl, by decide, rfl⟩
  have hrun := Machine.Run.of_exec hexec
  have hconnect : Machine.Meets ConnectsUnconnected
      (realtimeMachine.trace (.init "feed" [] .none []) closedByPeerActions) := by
    decide
  exact ⟨_, es, s, hrun, Machine.map_snd_trace hexec, hes, hs,
    (endedHandler_of_disconnected hrun hconnect).1⟩

end Caff
