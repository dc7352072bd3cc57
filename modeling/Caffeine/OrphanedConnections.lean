/-
# Discarded connections

`GraphqlSubscription::disconnect` asks websocketpp to close the connection and then drops the
handle, whatever came of it.  A connection that is not open yet does not close, so it opens
later with nobody to close it.  The same becomes of a handle that `connect` overwrites.  A
handle that is dropped only when its connection is closing or at its end leaves no connection
open.
-/
import Caffeine.RealtimeMoves

namespace Caff

/-! ## Connections without a handle -/

/-- A connection whose handle has been given up is not open, and does not get there. -/
def Connection.Settled (x : Connection) : Prop :=
  x.discarded = true → x.phase ≠ .connecting ∧ x.phase ≠ .open

def SettledInv (s : Realtime) : Prop := ∀ c x, s.connections c = some x → x.Settled

/-- The subscription whose member `connection` the operation assigns. -/
def Op.assignsHandle : Op → Option ℕ
  | .reset k | .keep k _ => some k
  | _ => none

/-- A subscription gives up the handle of a connection only when that is closing or at its
end. -/
def GivesUpClosing (s : Realtime) (a : RealtimeAction) : Prop :=
  ∀ r, a = .run r .success → ∀ k ∈ (s.pending r).head?.bind Op.assignsHandle,
    ∀ c ∈ s.handleOf k, ∀ x ∈ s.connections c, x.phase ≠ .connecting ∧ x.phase ≠ .open

instance (s : Realtime) (a : RealtimeAction) : Decidable (GivesUpClosing s a) :=
  inferInstanceAs (Decidable (∀ _, _))

section

variable {s s' : Realtime} {a : RealtimeAction} {out : List RealtimeEvent}

theorem SettledInv.congr (h : SettledInv s) (hc : s'.connections = s.connections) :
    SettledInv s' := by
  intro c x hx
  rw [hc] at hx
  exact h c x hx

/-- A connection changes. -/
theorem SettledInv.setConnection (h : SettledInv s) (c : ℕ) (f : Connection → Connection)
    (hf : ∀ x, s.connections c = some x → (f x).Settled) : SettledInv (s.setConnection c f) := by
  intro c' x hx
  by_cases heq : c' = c
  · subst heq
    have hx : (s.connections c').map f = some x := by simpa [Realtime.setConnection] using hx
    obtain ⟨y, hy, rfl⟩ := Option.map_eq_some_iff.mp hx
    exact hf y hy
  · exact h c' x (by simpa [Realtime.setConnection, heq] using hx)

/-- Once it is not on the way to be open a connection may have any other phase. -/
theorem SettledInv.setPhase (h : SettledInv s) (c : ℕ) {phase : ConnectionPhase}
    (hphase : phase ≠ .connecting ∧ phase ≠ .open) : SettledInv (s.setPhase c phase) :=
  h.setConnection c _ fun _ _ _ => hphase

theorem SettledInv.closeConnection (h : SettledInv s) (c : ℕ) :
    SettledInv (s.closeConnection c) := by
  apply h.setConnection c _
  intro x hx hd
  have hwas := h c x hx hd
  simp [hwas.1, hwas.2]

theorem SettledInv.assignHandle (h : SettledInv s) (k : ℕ) (connection : Option ℕ)
    (hk : ∀ c ∈ s.handleOf k, ∀ x ∈ s.connections c, x.phase ≠ .connecting ∧ x.phase ≠ .open) :
    SettledInv (s.assignHandle k connection) := by
  rw [Realtime.assignHandle.eq_def]
  split
  · rename_i c hc
    have hdiscard : SettledInv (s.setConnection c fun x => { x with discarded := true }) :=
      h.setConnection c _ fun x hx _ => hk c hc x hx
    exact hdiscard.congr rfl
  · exact h.congr rfl

/-- **Step lemma.** -/
theorem SettledInv.moves (h : SettledInv s) (hgive : GivesUpClosing s a)
    (hmoves : RealtimeMoves s a s' out) : SettledInv s' := by
  cases hmoves with
  | world b w out hb hs => exact h.congr (sameObjects_onWorld s w b).connections
  | run r op reply rest t ops out hp hop =>
      have hhead : ∀ k, op.assignsHandle = some k → reply = .success →
          ∀ c ∈ s.handleOf k, ∀ x ∈ s.connections c,
            x.phase ≠ .connecting ∧ x.phase ≠ .open := by
        rintro k hk rfl
        exact hgive r rfl k (by rw [hp]; exact hk)
      have hpop : SettledInv (s.pop r rest) := h
      have ht : SettledInv t := by
        cases hop with
        | assign tryNum k hk => exact hpop.congr (Realtime.connections_assign _ k tryNum)
        | close k c hc => exact hpop.closeConnection c
        | reset k => exact hpop.assignHandle k none (hhead k rfl rfl)
        | keep k connection => exact hpop.assignHandle k connection (hhead k rfl rfl)
        | dial k c hc =>
            intro c' x hx hd
            by_cases heq : c' = c
            · subst heq
              have hx : Connection.mk k .connecting false = x := by simpa using hx
              rw [← hx] at hd
              cases hd
            · have hx : (s.pop r rest).connections c' = some x := by simpa [heq] using hx
              exact hpop c' x hx hd
        | clear => exact hpop.congr (Realtime.connections_clear _)
        | releaseSubscription k => exact hpop.congr (Realtime.connections_release _ k)
        | handle m => cases m <;> exact hpop
        | releaseBroadcast =>
            unfold Realtime.dropBroadcast
            split <;> exact hpop
        | _ => exact hpop
      exact ht
  | opened c x hi hc hx =>
      have hopen : SettledInv (s.setPhase c .open) := by
        apply h.setConnection c _
        intro y hy hd
        -- a discarded connection is not connecting
        rw [hc] at hy
        obtain rfl := Option.some.inj hy
        exact absurd hx (h c x hc hd).1
      exact hopen.congr (sameObjects_callback _ _ _).connections
  | peerClosed c x hi hc hx => exact h.setPhase c (by simp)
  | terminated c x endType hi hc hx => exact h.setPhase c (by simp)
  | ended c x endType hi hc hx =>
      exact (h.setPhase c (by simp)).congr (sameObjects_callback _ _ _).connections
  | message c m x hi hc hx => exact h.congr (sameObjects_callback _ _ _).connections
  | drop hr =>
      unfold Realtime.dropBroadcast
      split <;> exact h
  | _ => exact h

end

/-! ## Every run -/

section

variable {feedId : String} {title gameId : Bytes} {rating : Rating}
  {tr : List (Realtime × RealtimeAction)} {es : List RealtimeEvent} {s : Realtime}

/-- **Run lemma.** -/
theorem RealtimeRuns.settledInv (h : RealtimeRuns feedId title rating gameId tr es s)
    (hgive : Machine.Meets GivesUpClosing tr) : SettledInv s := by
  refine Machine.Run.induction_on_steps (C := GivesUpClosing) (I := fun _ s => SettledInv s)
    (fun _ _ hx => ?_) (fun _ _ _ _ _ hi hc hs => hi.moves hc (realtimeMoves_of_step hs)) h hgive
  cases hx

/-- A connection that has been discarded stays so. -/
theorem discarded_of_run {s' : Realtime} {c : ℕ} {x : Connection}
    (h : realtimeMachine.Run s tr es s') (hc : s.connections c = some x)
    (hd : x.discarded = true) : ∃ x', s'.connections c = some x' ∧ x'.discarded = true := by
  refine Machine.Run.invariant
    (I := fun s => ∃ x, s.connections c = some x ∧ x.discarded = true) ⟨x, hc, hd⟩ ?_ h
  rintro t a t' out ⟨y, hy, hdy⟩ hs
  obtain ⟨y', hy', hbecomes⟩ := (realtimeMoves_of_step hs).becomes hy
  exact ⟨y', hy', hbecomes.discarded hdy⟩

/-- **No orphaned connection.**  In every run in which a subscription gives up a handle only
when the connection is closing or at its end: a connection whose handle has been given up is
never open afterwards. -/
theorem discarded_not_open {tr' : List (Realtime × RealtimeAction)} {es' : List RealtimeEvent}
    {s' : Realtime} (h : RealtimeRuns feedId title rating gameId tr es s)
    (h' : realtimeMachine.Run s tr' es' s') (hgive : Machine.Meets GivesUpClosing (tr ++ tr'))
    {c : ℕ} {x : Connection} (hc : s.connections c = some x) (hd : x.discarded = true) :
    ∃ x', s'.connections c = some x' ∧ x'.phase ≠ .open := by
  have hrun : RealtimeRuns feedId title rating gameId (tr ++ tr') (es ++ es') s' := h.trans h'
  obtain ⟨x', hc', hd'⟩ := discarded_of_run h' hc hd
  exact ⟨x', hc', (hrun.settledInv hgive c x' hc' hd').2⟩

end

/-- The broadcast is stopped with its subscription connected. -/
def stopConnectedActions : List RealtimeAction :=
  setupActions ++ [.opened 0] ++ List.replicate 2 (.run .clientThread .success) ++
    [.world .stop] ++ List.replicate 3 (.run .stopper .success)

theorem discarded_not_open_stopConnected :
    ∃ tr es s x tr' es' s', RealtimeRuns "feed" [] .none [] tr es s ∧
      tr.map Prod.snd = stopConnectedActions ∧ s.connections 0 = some x ∧ x.discarded = true ∧
      realtimeMachine.Run s tr' es' s' ∧ tr'.map Prod.snd = [.terminated 0] ∧
      ∃ x', s'.connections 0 = some x' ∧ x'.phase ≠ .open := by
  obtain ⟨s, es, hexec, x, hc, hd, s', es', hexec', hgive⟩ : ∃ s es,
      realtimeMachine.exec (.init "feed" [] .none []) stopConnectedActions = some (s, es) ∧
      ∃ x, s.connections 0 = some x ∧ x.discarded = true ∧
      ∃ s' es', realtimeMachine.exec s [.terminated 0] = some (s', es') ∧
      Machine.Meets GivesUpClosing
        (realtimeMachine.trace (.init "feed" [] .none []) stopConnectedActions ++
          realtimeMachine.trace s [.terminated 0]) :=
    ⟨_, _, rfl, _, rfl, rfl, _, _, rfl, by decide⟩
  have hrun := Machine.Run.of_exec hexec
  have hrun' := Machine.Run.of_exec hexec'
  exact ⟨_, es, s, x, _, es', s', hrun, Machine.map_snd_trace hexec, hc, hd, hrun',
    Machine.map_snd_trace hexec', discarded_not_open hrun hrun' hgive hc hd⟩

/-- The broadcast is stopped while its subscription is connecting, and then the connection
opens. -/
def stopConnectingActions : List RealtimeAction :=
  setupActions ++ [.world .stop] ++ List.replicate 3 (.run .stopper .success)

theorem not_discarded_not_open_stopConnecting :
    ¬ ∀ feedId title rating gameId tr es s tr' es' s',
      RealtimeRuns feedId title rating gameId tr es s → realtimeMachine.Run s tr' es' s' →
      ∀ c x, s.connections c = some x → x.discarded = true →
        ∃ x', s'.connections c = some x' ∧ x'.phase ≠ .open := by
  obtain ⟨s, es, hexec, x, hc, hd, s', es', hexec', y, hy, hopen⟩ : ∃ s es,
      realtimeMachine.exec (.init "feed" [] .none []) stopConnectingActions = some (s, es) ∧
      ∃ x, s.connections 0 = some x ∧ x.discarded = true ∧
      ∃ s' es', realtimeMachine.exec s [.opened 0] = some (s', es') ∧
      ∃ y, s'.connections 0 = some y ∧ y.phase = .open :=
    ⟨_, _, rfl, _, rfl, rfl, _, _, rfl, _, rfl, rfl⟩
  intro hall
  obtain ⟨y', hy', hne⟩ := hall "feed" [] .none [] _ es s _ es' s' (.of_exec hexec)
    (.of_exec hexec') 0 x hc hd
  rw [hy] at hy'
  rw [← Option.some.inj hy'] at hne
  exact hne hopen

end Caff
