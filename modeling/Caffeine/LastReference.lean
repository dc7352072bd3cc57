/-
# The last reference to a broadcast

The handlers on the websocket thread hold a strong reference to the broadcast while they run.
The other references are that of the instance, those of API calls, and that of the thread
`endBroadcast` detaches to destroy the broadcast elsewhere.  When the last of these goes while
a handler runs, the handler is left with the last reference, and the websocket thread destroys
the broadcast, whose `WebsocketClient` then joins the thread it runs on.
-/
import Caffeine.RealtimeMoves

namespace Caff

/-! ## References to the broadcast -/

/-- When the last reference outside the websocket thread goes, no handler there holds one. -/
def DropsUnheld (s : Realtime) (a : RealtimeAction) : Prop :=
  a = .drop → s.slot = false → s.references = 1 → s.clientHolds = false

instance (s : Realtime) (a : RealtimeAction) : Decidable (DropsUnheld s a) :=
  inferInstanceAs (Decidable (_ → _ → _ → _))

/-- A destroyed broadcast has no reference left. -/
def DestroyedInv (s : Realtime) : Prop :=
  s.destroyed = true → s.slot = false ∧ s.references = 0 ∧ s.clientHolds = false

/-- One that is not has a reference outside the websocket thread. -/
def OutsideInv (s : Realtime) : Prop :=
  s.destroyed = false → s.slot = true ∨ 0 < s.references

section

variable {s s' : Realtime} {a : RealtimeAction} {out : List RealtimeEvent}

theorem Realtime.clientHolds_iff :
    s.clientHolds = true ↔ ∃ op ∈ s.pending .clientThread, op.holdsBroadcast = true := by
  rw [Realtime.clientHolds, List.any_eq_true]

/-- An operation is followed by one with a reference only if it has one, or the broadcast is
there to be locked. -/
theorem Leads.holdsBroadcast {op op' : Op} (h : Leads s op op')
    (hholds : op'.holdsBroadcast = true) : op.holdsBroadcast = true ∨ s.destroyed = false := by
  cases h with
  | lockEnded tryNum endType hd => exact .inr hd
  | lockRetry tryNum hd => exact .inr hd
  | lockMessage m hd => exact .inr hd
  | setUpEnded tryNum endType _ hrun hop => exact .inl rfl
  | setUpRetry tryNum _ hrun hop => exact .inl rfl
  | endEnded tryNum endType => exact .inl rfl
  | endRetry tryNum => exact .inl rfl
  | handle m => exact .inl rfl
  | _ => cases hholds

theorem Posted.holdsBroadcast {op : Op} (h : Posted s a .clientThread op)
    (hholds : op.holdsBroadcast = true) : s.clientHolds = true ∨ s.destroyed = false := by
  cases h with
  | next hp hop hmem =>
      rcases (hop.leads hmem).holdsBroadcast hholds with hwas | hd
      · exact .inl (Realtime.clientHolds_iff.mpr ⟨_, by rw [hp]; simp, hwas⟩)
      · exact .inr hd
  | callback hi hc halive hop =>
      rcases hop with rfl | ⟨tryNum, endType, rfl⟩ | ⟨m, rfl⟩ | rfl
      · cases hholds
      · cases hholds
      · unfold Realtime.received at hholds
        split at hholds <;> cases hholds
      · cases hholds

/-- The websocket thread gets a reference only from a broadcast that is there. -/
theorem RealtimeMoves.clientHolds (h : RealtimeMoves s a s' out) (hholds : s'.clientHolds = true) :
    s.clientHolds = true ∨ s.destroyed = false := by
  obtain ⟨op, hmem, hop⟩ := Realtime.clientHolds_iff.mp hholds
  rcases h.mem_pending hmem with hold | hnew
  · exact .inl (Realtime.clientHolds_iff.mpr ⟨op, hold, hop⟩)
  · exact hnew.holdsBroadcast hop

/-- **What a step does to the references outside the websocket thread**, apart from
destroying the broadcast. -/
inductive ReferenceMoves (s : Realtime) : RealtimeAction → Realtime → Prop
  | keep (a : RealtimeAction) {s' : Realtime} (hslot : s'.slot = s.slot)
      (href : s'.references = s.references) (hd : s'.destroyed = s.destroyed) :
      ReferenceMoves s a s'
  | getBroadcast {s' : Realtime} (hwas : s.slot = true) (hslot : s'.slot = s.slot)
      (href : s'.references = s.references + 1) (hd : s'.destroyed = s.destroyed) :
      ReferenceMoves s .getBroadcast s'
  | detach {s' : Realtime} (hwas : s.slot = true) (href : s'.references = s.references + 1)
      (hd : s'.destroyed = s.destroyed) : ReferenceMoves s .detach s'
  | drop {s' : Realtime} (hr : 0 < s.references) (hslot : s'.slot = s.slot)
      (href : s'.references = s.references - 1) (hd : s'.destroyed = s.destroyed)
      (hleft : s.slot = true ∨ 1 < s.references ∨ s.clientHolds = true) :
      ReferenceMoves s .drop s'
  | destroy (a : RealtimeAction) {s' : Realtime} (hslot : s'.slot = false)
      (href : s'.references = 0) (hholds : s'.clientHolds = false) (hd : s'.destroyed = true) :
      ReferenceMoves s a s'

theorem clientHolds_push_clear (s : Realtime) (r : Runner) :
    (s.push r [.clear]).clientHolds = s.clientHolds := by
  cases r <;> rfl

theorem RealtimeMoves.referenceMoves (h : RealtimeMoves s a s' out) : ReferenceMoves s a s' := by
  cases h with
  | world b w out hb hs =>
      obtain ⟨-, -, -, hslot, href, hd, -⟩ := sameObjects_onWorld s w b
      exact .keep _ hslot href hd
  | run r op reply rest t ops out hp hop =>
      have hframe := hop.frame
      cases hop with
      | releaseBroadcast =>
          rcases Realtime.dropBroadcast_cases (s.pop r rest) r with ⟨heq, hslot, href, hholds⟩ |
            ⟨heq, -⟩
          · rw [heq]
            refine .destroy _ hslot href ?_ rfl
            rw [clientHolds_push_clear]
            exact hholds
          · rw [heq]
            exact .keep _ rfl rfl rfl
      | assign tryNum k hk =>
          exact .keep _ hframe.slot hframe.references (sameBroadcast_assign _ k tryNum).destroyed
      | clear => exact .keep _ hframe.slot hframe.references (sameBroadcast_clear _).destroyed
      | reset k =>
          exact .keep _ hframe.slot hframe.references
            (sameBroadcast_assignHandle _ k none).destroyed
      | keep k connection =>
          exact .keep _ hframe.slot hframe.references
            (sameBroadcast_assignHandle _ k connection).destroyed
      | releaseSubscription k =>
          exact .keep _ hframe.slot hframe.references (sameBroadcast_release _ k).destroyed
      | handle m => cases m <;> exact .keep _ rfl rfl rfl
      | _ => exact .keep _ rfl rfl rfl
  | opened c x hi hc hx =>
      obtain ⟨-, -, -, hslot, href, hd, -⟩ :=
        sameObjects_callback (s.setPhase c .open) x.subscription [.connectionInit x.subscription]
      exact .keep _ hslot href hd
  | ended c x endType hi hc hx =>
      obtain ⟨-, -, -, hslot, href, hd, -⟩ := sameObjects_callback (s.setPhase c .handled)
        x.subscription [.lockEnded (s.tryNumOf x.subscription) endType]
      exact .keep _ hslot href hd
  | message c m x hi hc hx =>
      obtain ⟨-, -, -, hslot, href, hd, -⟩ :=
        sameObjects_callback s x.subscription [Realtime.received x.subscription m]
      exact .keep _ hslot href hd
  | getBroadcast hslot hstop => exact .getBroadcast hslot rfl rfl rfl
  | detach hslot hstop => exact .detach hslot rfl rfl
  | drop hr =>
      rcases Realtime.dropBroadcast_cases { s with references := s.references - 1 } .owner with
        ⟨heq, hslot, href, hholds⟩ | ⟨heq, hleft⟩
      · rw [heq]
        refine .destroy _ hslot href ?_ rfl
        rw [clientHolds_push_clear]
        exact hholds
      · rw [heq]
        refine .drop hr rfl rfl rfl (hleft.imp_right (Or.imp_left fun hpos => ?_))
        have hpos : 0 < s.references - 1 := hpos
        omega
  | _ => exact .keep _ rfl rfl rfl

/-- **Step lemma.** -/
theorem DestroyedInv.moves (h : DestroyedInv s) (hmoves : RealtimeMoves s a s' out) :
    DestroyedInv s' := by
  intro hd'
  -- a step from a destroyed broadcast gives the websocket thread no reference
  have hholds : s.destroyed = true → s'.clientHolds = false := by
    intro hd
    by_contra hne
    rcases hmoves.clientHolds (by simpa using hne) with hwas | hnot
    · rw [(h hd).2.2] at hwas
      cases hwas
    · rw [hd] at hnot
      cases hnot
  cases hmoves.referenceMoves with
  | keep _ hslot href hd =>
      rw [hd] at hd'
      exact ⟨hslot.trans (h hd').1, href.trans (h hd').2.1, hholds hd'⟩
  | getBroadcast hwas hslot href hd =>
      rw [hd] at hd'
      rw [(h hd').1] at hwas
      cases hwas
  | detach hwas href hd =>
      rw [hd] at hd'
      rw [(h hd').1] at hwas
      cases hwas
  | drop hr hslot href hd hleft =>
      rw [hd] at hd'
      rw [(h hd').2.1] at hr
      cases hr
  | destroy _ hslot href hholds' hd => exact ⟨hslot, href, hholds'⟩

/-- **Step lemma.** -/
theorem OutsideInv.moves (h : OutsideInv s) (hdrop : DropsUnheld s a)
    (hmoves : RealtimeMoves s a s' out) : OutsideInv s' := by
  intro hd'
  cases hmoves.referenceMoves with
  | keep _ hslot href hd =>
      rw [hd] at hd'
      rw [hslot, href]
      exact h hd'
  | getBroadcast hwas hslot href hd => exact .inl (hslot.trans hwas)
  | detach hwas href hd => exact .inr (by omega)
  | drop hr hslot href hd hleft =>
      rw [hslot, href]
      by_cases hs : s.slot = true
      · exact .inl hs
      · have hs : s.slot = false := by simpa using hs
        rcases hleft with hs' | hmany | hholds
        · rw [hs] at hs'
          cases hs'
        · exact .inr (by omega)
        · by_cases hone : s.references = 1
          · rw [hdrop rfl hs hone] at hholds
            cases hholds
          · exact .inr (by omega)
  | destroy _ hslot href hholds' hd =>
      rw [hd] at hd'
      cases hd'

/-- The websocket thread destroys the broadcast when it lets go of it with nothing else left. -/
theorem RealtimeMoves.of_destroyed (h : RealtimeMoves s a s' out)
    (hmem : .destroyed .clientThread ∈ out) :
    s.slot = false ∧ s.references = 0 ∧ s.clientHolds = true := by
  cases h.shows hmem with
  | run rest hp hop =>
      cases hop with
      | destroyed hslot href =>
          have hlast : .releaseBroadcast ∈ s.pending .clientThread := by
            rw [hp]
            exact List.mem_cons_self
          exact ⟨hslot, href, Realtime.clientHolds_iff.mpr ⟨_, hlast, rfl⟩⟩

end

/-! ## Every run -/

section

variable {feedId : String} {title gameId : Bytes} {rating : Rating}
  {tr : List (Realtime × RealtimeAction)} {es : List RealtimeEvent} {s : Realtime}

/-- **Run lemmas.** -/
theorem RealtimeRuns.destroyedInv (h : RealtimeRuns feedId title rating gameId tr es s) :
    DestroyedInv s :=
  Machine.Run.invariant (I := DestroyedInv) (fun hd => by cases hd)
    (fun _ _ _ _ hi hs => hi.moves (realtimeMoves_of_step hs)) h

theorem RealtimeRuns.outsideInv (h : RealtimeRuns feedId title rating gameId tr es s)
    (hdrop : Machine.Meets DropsUnheld tr) : OutsideInv s :=
  Machine.Run.induction_on_steps (C := DropsUnheld) (I := fun _ s => OutsideInv s)
    (fun _ => .inl rfl) (fun _ _ _ _ _ hi hc hs => hi.moves hc (realtimeMoves_of_step hs)) h hdrop

/-- **The last reference.**  In every run in which no handler on the websocket thread holds
the broadcast when the last reference outside that thread goes, the websocket thread never
releases the last one, and so never destroys the broadcast, which would join it. -/
theorem not_destroyed_by_clientThread (h : RealtimeRuns feedId title rating gameId tr es s)
    (hdrop : Machine.Meets DropsUnheld tr) : .destroyed .clientThread ∉ es := by
  intro hmem
  obtain ⟨l₁, l₂, hes⟩ := List.append_of_mem hmem
  obtain ⟨tr₁, tr₂, es', t, a, t', out₁, out₂, htr, hrun, hs, -⟩ := h.exists_step_of_output hes
  have hrun : RealtimeRuns feedId title rating gameId tr₁ es' t := hrun
  obtain ⟨hslot, href, hholds⟩ := (realtimeMoves_of_step hs).of_destroyed (by simp)
  rw [htr] at hdrop
  cases hd : t.destroyed
  · have houtside := hrun.outsideInv hdrop.of_append hd
    rw [hslot, href] at houtside
    simp at houtside
  · rw [(hrun.destroyedInv hd).2.2] at hholds
    cases hholds

end

/-- The broadcast is stopped while a handler has locked it, and the detached thread comes
first: `endBroadcast` and that thread, around the handler of a message. -/
def stopInHandlerActions : List RealtimeAction :=
  setupActions ++ .opened 0 :: List.replicate 2 (.run .clientThread .success) ++
    [.message 0 (.update ⟨[], false⟩), .run .clientThread .success, .world .stop,
      .run .stopper .success] ++ stopActions ++ [.detach]

theorem not_destroyed_by_clientThread_handlerFirst :
    ∃ tr es s, RealtimeRuns "feed" [] .none [] tr es s ∧
      tr.map Prod.snd =
        stopInHandlerActions ++ List.replicate 2 (.run .clientThread .success) ++ [.drop] ∧
      .destroyed .owner ∈ es ∧ .destroyed .clientThread ∉ es := by
  obtain ⟨s, es, hexec, hes⟩ : ∃ s es,
      realtimeMachine.exec (.init "feed" [] .none []) (stopInHandlerActions ++
        List.replicate 2 (.run .clientThread .success) ++ [.drop]) = some (s, es) ∧
      .destroyed .owner ∈ es :=
    ⟨_, _, rfl, by decide⟩
  have hrun := Machine.Run.of_exec hexec
  have hdrop : Machine.Meets DropsUnheld
      (realtimeMachine.trace (.init "feed" [] .none []) (stopInHandlerActions ++
        List.replicate 2 (.run .clientThread .success) ++ [.drop])) := by decide
  exact ⟨_, es, s, hrun, Machine.map_snd_trace hexec, hes,
    not_destroyed_by_clientThread hrun hdrop⟩

theorem not_not_destroyed_by_clientThread_dropFirst :
    ¬ ∀ feedId title rating gameId tr es s, RealtimeRuns feedId title rating gameId tr es s →
      .destroyed .clientThread ∉ es := by
  obtain ⟨s, es, hexec, hes⟩ : ∃ s es,
      realtimeMachine.exec (.init "feed" [] .none []) (stopInHandlerActions ++
        [.drop] ++ List.replicate 2 (.run .clientThread .success)) = some (s, es) ∧
      .destroyed .clientThread ∈ es :=
    ⟨_, _, rfl, by decide⟩
  intro hall
  exact hall "feed" [] .none [] _ es s (.of_exec hexec) hes

end Caff
