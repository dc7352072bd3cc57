/-
# What one step around the subscription can do

The inversion of an operation and of a step, what each leaves alone, and the invariants that
say who refers to what.
-/
import Caffeine.Realtime
import Caffeine.BroadcastRegions

namespace Caff

open Machine (holds_of_some holds_of_guard)

/-! ## Operations -/

/-- **What an operation can do**, by the reply that it gets: the state after it, what it leaves to
do and what is seen of it. -/
inductive OpMoves (s : Realtime) (r : Runner) :
    Op → Reply → Realtime → List Op → List RealtimeEvent → Prop
  | assign (tryNum k : ℕ) (hk : s.subscriptions k = none) :
      OpMoves s r (.assign tryNum) (.fresh k) (s.assign k tryNum).1 (s.assign k tryNum).2
        [.created k]
  | connectMember (k : ℕ) (hk : s.subscription = some k) :
      OpMoves s r .connectMember .success s [.close k, .dial k] [.setUp k]
  | nullMember (hk : s.subscription = none) :
      OpMoves s r .connectMember .success s [.aborted] []
  | close (k c : ℕ) (hc : s.handleOf k = some c) :
      OpMoves s r (.close k) .success (s.closeConnection c) [.reset k] [.disconnected c]
  | closeNothing (k : ℕ) (hc : s.handleOf k = none) :
      OpMoves s r (.close k) .success s [] []
  | reset (k : ℕ) : OpMoves s r (.reset k) .success (s.assignHandle k none) [] []
  | dial (k c : ℕ) (hc : s.connections c = none) :
      OpMoves s r (.dial k) (.fresh c)
        { s with connections := Function.update s.connections c (some { subscription := k }) }
        [.keep k (some c)] [.dialed k c]
  | dialFails (k : ℕ) : OpMoves s r (.dial k) .failure s [.keep k none] [.dialFailed k]
  | keep (k : ℕ) (connection : Option ℕ) :
      OpMoves s r (.keep k connection) .success (s.assignHandle k connection) [] []
  | clear : OpMoves s r .clear .success s.clear.1 s.clear.2 []
  | connectionInit (k : ℕ) : OpMoves s r (.connectionInit k) .success s [] [.credentialsUsed]
  | readRefreshToken (k : ℕ) (m : Message) :
      OpMoves s r (.readRefreshToken k m) .success s [.awaitRefresh k m] [.credentialsUsed]
  | refresh (k : ℕ) (m : Message) :
      OpMoves s r (.awaitRefresh k m) .success s [.writeCredentials k] []
  | refuse (k : ℕ) (m : Message) :
      OpMoves s r (.awaitRefresh k m) .failure s [.lockMessage m] []
  | raise (k : ℕ) (m : Message) : OpMoves s r (.awaitRefresh k m) .raised s [.aborted] []
  | writeCredentials (k : ℕ) :
      OpMoves s r (.writeCredentials k) .success s [.close k, .dial k]
        [.credentialsUsed, .refreshed k]
  | releaseSubscription (k : ℕ) :
      OpMoves s r (.releaseSubscription k) .success (s.release k).1 (s.release k).2 []
  | lockEnded (tryNum : ℕ) (endType : ConnectionEndType) :
      OpMoves s r (.lockEnded tryNum endType) .success s
        (if s.destroyed then [] else [.testEnded tryNum endType]) []
  | testEnded (tryNum : ℕ) (endType : ConnectionEndType) :
      OpMoves s r (.testEnded tryNum endType) .success s (s.afterEnded tryNum endType) []
  | lockRetry (tryNum : ℕ) :
      OpMoves s r (.lockRetry tryNum) .success s
        (if s.destroyed then [] else [.testRetry tryNum]) []
  | testRetry (tryNum : ℕ) :
      OpMoves s r (.testRetry tryNum) .success s (s.afterRetry tryNum) []
  | lockMessage (m : Message) :
      OpMoves s r (.lockMessage m) .success s (if s.destroyed then [] else [.handle m]) []
  | handle (m : Message) :
      OpMoves s r (.handle m) .success (s.handleMessage m).1 [.releaseBroadcast]
        ((s.handleMessage m).2.map .world)
  | releaseBroadcast :
      OpMoves s r .releaseBroadcast .success (s.dropBroadcast r).1 (s.dropBroadcast r).2.1
        (s.dropBroadcast r).2.2

section

variable {s s' : Realtime} {r : Runner} {op : Op} {reply : Reply} {ops : List Op}
  {out : List RealtimeEvent}

/-- The result of a branch of `exec`. -/
theorem opMoves_of_eq {t : Realtime × List Op × List RealtimeEvent}
    (h : some t = some (s', ops, out)) (ht : OpMoves s r op reply t.1 t.2.1 t.2.2) :
    OpMoves s r op reply s' ops out := by
  rw [Option.some.injEq] at h
  rw [h] at ht
  exact ht

/-- **Inversion of an operation.** -/
theorem opMoves_of_exec (h : s.exec r op reply = some (s', ops, out)) :
    OpMoves s r op reply s' ops out := by
  unfold Realtime.exec at h
  split at h
  case h_1 tryNum k =>
    split at h
    case isTrue hk => exact opMoves_of_eq h (.assign tryNum k hk)
    case isFalse => cases h
  case h_2 =>
    split at h
    case h_1 k hk => exact opMoves_of_eq h (.connectMember k hk)
    case h_2 hk => exact opMoves_of_eq h (.nullMember hk)
  case h_3 k =>
    split at h
    case h_1 c hc => exact opMoves_of_eq h (.close k c hc)
    case h_2 hc => exact opMoves_of_eq h (.closeNothing k hc)
  case h_4 k => exact opMoves_of_eq h (.reset k)
  case h_5 k c =>
    split at h
    case isTrue hc => exact opMoves_of_eq h (.dial k c hc)
    case isFalse => cases h
  case h_6 k => exact opMoves_of_eq h (.dialFails k)
  case h_7 k connection => exact opMoves_of_eq h (.keep k connection)
  case h_8 => exact opMoves_of_eq h .clear
  case h_9 k => exact opMoves_of_eq h (.connectionInit k)
  case h_10 k m => exact opMoves_of_eq h (.readRefreshToken k m)
  case h_11 k m => exact opMoves_of_eq h (.refresh k m)
  case h_12 k m => exact opMoves_of_eq h (.refuse k m)
  case h_13 k m => exact opMoves_of_eq h (.raise k m)
  case h_14 k => exact opMoves_of_eq h (.writeCredentials k)
  case h_15 k => exact opMoves_of_eq h (.releaseSubscription k)
  case h_16 tryNum endType => exact opMoves_of_eq h (.lockEnded tryNum endType)
  case h_17 tryNum endType => exact opMoves_of_eq h (.testEnded tryNum endType)
  case h_18 tryNum => exact opMoves_of_eq h (.lockRetry tryNum)
  case h_19 tryNum => exact opMoves_of_eq h (.testRetry tryNum)
  case h_20 m => exact opMoves_of_eq h (.lockMessage m)
  case h_21 m => exact opMoves_of_eq h (.handle m)
  case h_22 => exact opMoves_of_eq h .releaseBroadcast
  case h_23 => cases h

end

/-! ## Steps -/

/-- **What a step can do.** -/
inductive RealtimeMoves (s : Realtime) :
    RealtimeAction → Realtime → List RealtimeEvent → Prop
  | world (a : Action) (w : World) (out : List Event) (ha : s.admits a = true)
      (hs : s.world.step a = some (w, out)) :
      RealtimeMoves s (.world a) (s.onWorld w a) (out.map .world)
  | run (r : Runner) (op : Op) (reply : Reply) (rest : List Op) (t : Realtime) (ops : List Op)
      (out : List RealtimeEvent) (hp : s.pending r = op :: rest)
      (hop : OpMoves (s.pop r rest) r op reply t ops out) :
      RealtimeMoves s (.run r reply) (t.push r ops) out
  | opened (c : ℕ) (x : Connection) (hi : s.pending .clientThread = [])
      (hc : s.connections c = some x) (hx : x.phase = .connecting) :
      RealtimeMoves s (.opened c)
        ((s.setPhase c .open).callback x.subscription [.connectionInit x.subscription]) []
  | peerClosed (c : ℕ) (x : Connection) (hi : s.pending .clientThread = [])
      (hc : s.connections c = some x) (hx : x.phase = .open) :
      RealtimeMoves s (.peerClosed c) (s.setPhase c .closing) []
  | terminated (c : ℕ) (x : Connection) (endType : ConnectionEndType)
      (hi : s.pending .clientThread = []) (hc : s.connections c = some x)
      (hx : x.phase.endType = some endType) :
      RealtimeMoves s (.terminated c) (s.setPhase c (.ended endType)) []
  | ended (c : ℕ) (x : Connection) (endType : ConnectionEndType)
      (hi : s.pending .clientThread = []) (hc : s.connections c = some x)
      (hx : x.phase = .ended endType) :
      RealtimeMoves s (.ended c)
        ((s.setPhase c .handled).callback x.subscription
          [.lockEnded (s.tryNumOf x.subscription) endType])
        (if s.alive x.subscription then [.endedHandler c] else [])
  | message (c : ℕ) (m : Message) (x : Connection) (hi : s.pending .clientThread = [])
      (hc : s.connections c = some x) (hx : x.phase = .open) :
      RealtimeMoves s (.message c m)
        (s.callback x.subscription [Realtime.received x.subscription m]) []
  | getBroadcast (hslot : s.slot = true) (hstop : s.world.stopCall = .notCalled) :
      RealtimeMoves s .getBroadcast { s with references := s.references + 1 } []
  | detach (hslot : s.slot = true) (hstop : s.world.stopCall = .returned) :
      RealtimeMoves s .detach { s with slot := false, references := s.references + 1 } []
  | drop (hr : 0 < s.references) :
      RealtimeMoves s .drop
        (({ s with references := s.references - 1 }.dropBroadcast .owner).1.push .owner
          ({ s with references := s.references - 1 }.dropBroadcast .owner).2.1)
        ({ s with references := s.references - 1 }.dropBroadcast .owner).2.2
  | completeStats (hn : 0 < s.statsRequests) :
      RealtimeMoves s .completeStats
        { s with statsRequests := s.statsRequests - 1, statsTasks := s.statsTasks + 1 } []
  | sendStats (hn : 0 < s.statsTasks) :
      RealtimeMoves s .sendStats { s with statsTasks := s.statsTasks - 1 } [.credentialsUsed]
  | dropStats : RealtimeMoves s .dropStats { s with statsTasks := 0 } []
  | signOut (hslot : s.slot = false) (hc : s.sharedCredentials = true) :
      RealtimeMoves s .signOut { s with sharedCredentials := false } [.signedOut]

section

variable {s s' : Realtime} {a : RealtimeAction} {out : List RealtimeEvent}

/-- An event of a connection finds the websocket thread in no handler. -/
theorem holds_of_onConnection {P : Realtime → List RealtimeEvent → Prop} {c : ℕ}
    {f : Connection → Option (Realtime × List RealtimeEvent)}
    (h : s.onConnection c f = some (s', out))
    (hf : ∀ x, s.pending .clientThread = [] → s.connections c = some x →
      f x = some (s', out) → P s' out) : P s' out := by
  unfold Realtime.onConnection at h
  split at h
  · rename_i hi
    obtain ⟨x, hc, hx⟩ := Option.bind_eq_some_iff.mp h
    exact hf x hi hc hx
  · cases h

/-- **Inversion of a step.** -/
theorem realtimeMoves_of_step (h : s.step a = some (s', out)) : RealtimeMoves s a s' out := by
  cases a with
  | world a =>
      rw [Realtime.step] at h
      split at h
      · rename_i ha
        split at h
        · rename_i w out' hs
          exact holds_of_some h (.world a w out' ha hs)
        · cases h
      · cases h
  | run r reply =>
      rw [Realtime.step] at h
      split at h
      · cases h
      · rename_i op rest hp
        split at h
        · rename_i t ops out' he
          exact holds_of_some h (.run r op reply rest t ops out' hp (opMoves_of_exec he))
        · cases h
  | opened c =>
      exact holds_of_onConnection h fun x hi hc hx =>
        holds_of_guard hx fun hphase => .opened c x hi hc hphase
  | peerClosed c =>
      exact holds_of_onConnection h fun x hi hc hx =>
        holds_of_guard hx fun hphase => .peerClosed c x hi hc hphase
  | terminated c =>
      apply holds_of_onConnection h
      intro x hi hc hx
      split at hx
      · rename_i endType hend
        exact holds_of_some hx (.terminated c x endType hi hc hend)
      · cases hx
  | ended c =>
      apply holds_of_onConnection h
      intro x hi hc hx
      split at hx
      · rename_i endType hend
        exact holds_of_some hx (.ended c x endType hi hc hend)
      · cases hx
  | message c m =>
      exact holds_of_onConnection h fun x hi hc hx =>
        holds_of_guard hx fun hphase => .message c m x hi hc hphase
  | getBroadcast => exact holds_of_guard h fun hg => .getBroadcast hg.1 hg.2.2
  | detach => exact holds_of_guard h fun hg => .detach hg.1 hg.2
  | drop => exact holds_of_guard h fun hr => .drop hr
  | completeStats => exact holds_of_guard h fun hn => .completeStats hn
  | sendStats => exact holds_of_guard h fun hn => .sendStats hn
  | dropStats => exact holds_of_guard h fun _ => .dropStats
  | signOut => exact holds_of_guard h fun hg => .signOut (by simpa using hg.1) hg.2

end

/-! ## What an operation leaves alone -/

/-- Only the member `subscription`, the subscriptions and the connections may differ. -/
structure SameBroadcast (s s' : Realtime) : Prop where
  world : s'.world = s.world
  pending : s'.pending = s.pending
  slot : s'.slot = s.slot
  references : s'.references = s.references
  destroyed : s'.destroyed = s.destroyed
  sharedCredentials : s'.sharedCredentials = s.sharedCredentials
  statsRequests : s'.statsRequests = s.statsRequests
  statsTasks : s'.statsTasks = s.statsTasks

theorem sameBroadcast_refl (s : Realtime) : SameBroadcast s s :=
  ⟨rfl, rfl, rfl, rfl, rfl, rfl, rfl, rfl⟩

/-- Letting go of a subscription leaves the broadcast alone, -/
theorem sameBroadcast_release (s : Realtime) (k : ℕ) : SameBroadcast s (s.release k).1 := by
  unfold Realtime.release
  split <;> exact ⟨rfl, rfl, rfl, rfl, rfl, rfl, rfl, rfl⟩

/-- and so do an assignment of the member, -/
theorem sameBroadcast_assign (s : Realtime) (k tryNum : ℕ) :
    SameBroadcast s (s.assign k tryNum).1 := by
  rw [Realtime.assign.eq_def]
  split
  · obtain ⟨hw, hp, hs, hr, hd, hc, hq, ht⟩ := sameBroadcast_release _ _
    exact ⟨hw, hp, hs, hr, hd, hc, hq, ht⟩
  · exact ⟨rfl, rfl, rfl, rfl, rfl, rfl, rfl, rfl⟩

/-- its reset, -/
theorem sameBroadcast_clear (s : Realtime) : SameBroadcast s s.clear.1 := by
  rw [Realtime.clear.eq_def]
  split
  · obtain ⟨hw, hp, hs, hr, hd, hc, hq, ht⟩ := sameBroadcast_release _ _
    exact ⟨hw, hp, hs, hr, hd, hc, hq, ht⟩
  · exact sameBroadcast_refl s

/-- and an assignment of a handle. -/
theorem sameBroadcast_assignHandle (s : Realtime) (k : ℕ) (connection : Option ℕ) :
    SameBroadcast s (s.assignHandle k connection) := by
  rw [Realtime.assignHandle.eq_def]
  split <;> exact ⟨rfl, rfl, rfl, rfl, rfl, rfl, rfl, rfl⟩

/-- What no operation touches, and what it does to the broadcast. -/
structure OpFrame (s s' : Realtime) : Prop where
  world : s'.world = s.world ∨
    ∃ feedIsOnStage live, s'.world = (s.world.stageUpdate feedIsOnStage live).1
  pending : s'.pending = s.pending
  slot : s'.slot = s.slot
  references : s'.references = s.references
  sharedCredentials : s'.sharedCredentials = s.sharedCredentials
  statsRequests : s'.statsRequests = s.statsRequests
  statsTasks : s'.statsTasks = s.statsTasks

theorem SameBroadcast.opFrame {s s' : Realtime} (h : SameBroadcast s s') : OpFrame s s' :=
  ⟨.inl h.world, h.pending, h.slot, h.references, h.sharedCredentials, h.statsRequests,
    h.statsTasks⟩

/-- A message goes to the broadcast alone. -/
theorem opFrame_handleMessage (s : Realtime) (m : Message) :
    OpFrame s (s.handleMessage m).1 := by
  cases m with
  | update u => exact ⟨.inr ⟨_, _, rfl⟩, rfl, rfl, rfl, rfl, rfl, rfl⟩
  | errors messages => exact (sameBroadcast_refl s).opFrame

/-- The destructor of the broadcast begins with nothing done to its members. -/
@[simp] theorem Realtime.dropBroadcast_world (s : Realtime) (r : Runner) :
    (s.dropBroadcast r).1.world = s.world := by
  unfold Realtime.dropBroadcast
  split <;> rfl

theorem opFrame_dropBroadcast (s : Realtime) (r : Runner) : OpFrame s (s.dropBroadcast r).1 := by
  unfold Realtime.dropBroadcast
  split <;> exact ⟨.inl rfl, rfl, rfl, rfl, rfl, rfl, rfl⟩

/-- **Frame.**  Every operation keeps to this. -/
theorem OpMoves.frame {s s' : Realtime} {r : Runner} {op : Op} {reply : Reply} {ops : List Op}
    {out : List RealtimeEvent} (h : OpMoves s r op reply s' ops out) : OpFrame s s' := by
  cases h with
  | assign tryNum k hk => exact (sameBroadcast_assign s k tryNum).opFrame
  | close k c hc => exact ⟨.inl rfl, rfl, rfl, rfl, rfl, rfl, rfl⟩
  | reset k => exact (sameBroadcast_assignHandle s k none).opFrame
  | dial k c hc => exact ⟨.inl rfl, rfl, rfl, rfl, rfl, rfl, rfl⟩
  | keep k connection => exact (sameBroadcast_assignHandle s k connection).opFrame
  | clear => exact (sameBroadcast_clear s).opFrame
  | releaseSubscription k => exact (sameBroadcast_release s k).opFrame
  | handle m => exact opFrame_handleMessage s m
  | releaseBroadcast => exact opFrame_dropBroadcast s r
  | _ => exact (sameBroadcast_refl _).opFrame

/-! ## What a thread has to do -/

/-- An operation is taken from its own thread, -/
@[simp] theorem Realtime.pop_pending_self (s : Realtime) (r : Runner) (rest : List Op) :
    (s.pop r rest).pending r = rest := by
  simp [Realtime.pop]

/-- and from no other, -/
theorem Realtime.pop_pending_of_ne (s : Realtime) {r r' : Runner} (rest : List Op) (h : r' ≠ r) :
    (s.pop r rest).pending r' = s.pending r' := by
  simp [Realtime.pop, h]

/-- as what it leaves to do goes to the front of its own thread, -/
@[simp] theorem Realtime.push_pending_self (s : Realtime) (r : Runner) (ops : List Op) :
    (s.push r ops).pending r = ops ++ s.pending r := by
  simp [Realtime.push]

/-- and of no other. -/
theorem Realtime.push_pending_of_ne (s : Realtime) {r r' : Runner} (ops : List Op) (h : r' ≠ r) :
    (s.push r ops).pending r' = s.pending r' := by
  simp [Realtime.push, h]

/-- What there is to do then is new, or was there. -/
theorem Realtime.mem_push {s : Realtime} {r r' : Runner} {ops : List Op} {op : Op} :
    op ∈ (s.push r ops).pending r' ↔ (r' = r ∧ op ∈ ops) ∨ op ∈ s.pending r' := by
  by_cases hr : r' = r
  · subst hr
    simp
  · rw [s.push_pending_of_ne ops hr]
    simp [hr]

/-- What is left to do was there before. -/
theorem Realtime.mem_of_mem_pop {s : Realtime} {r r' : Runner} {op op' : Op} {rest : List Op}
    (hp : s.pending r = op :: rest) (h : op' ∈ (s.pop r rest).pending r') : op' ∈ s.pending r' := by
  by_cases hr : r' = r
  · subst hr
    rw [s.pop_pending_self] at h
    rw [hp]
    exact List.mem_cons_of_mem op h
  · rwa [s.pop_pending_of_ne rest hr] at h

/-- What there is to do after an operation was there before, or the operation put it
there. -/
theorem OpMoves.mem_push {s t : Realtime} {r r' : Runner} {op op' : Op} {reply : Reply}
    {rest ops : List Op} {out : List RealtimeEvent}
    (h : OpMoves (s.pop r rest) r op reply t ops out) (hp : s.pending r = op :: rest)
    (hmem : op' ∈ (t.push r ops).pending r') : (r' = r ∧ op' ∈ ops) ∨ op' ∈ s.pending r' := by
  rw [Realtime.mem_push, h.frame.pending] at hmem
  exact hmem.imp_right (Realtime.mem_of_mem_pop hp)

/-- A handler begins without the broadcast. -/
@[simp] theorem Realtime.callback_world (s : Realtime) (k : ℕ) (ops : List Op) :
    (s.callback k ops).world = s.world := by
  unfold Realtime.callback
  split <;> rfl

/-- A handler gives the websocket thread its body, and the reference it holds to let go of. -/
theorem Realtime.mem_callback {s : Realtime} {k : ℕ} {ops : List Op} {r : Runner} {op : Op}
    (h : op ∈ (s.callback k ops).pending r) :
    op ∈ s.pending r ∨
      r = .clientThread ∧ s.alive k = true ∧ (op ∈ ops ∨ op = .releaseSubscription k) := by
  unfold Realtime.callback at h
  split at h
  · rename_i halive
    rcases Realtime.mem_push.mp h with ⟨hr, hmem⟩ | hmem
    · refine .inr ⟨hr, halive, ?_⟩
      simpa using hmem
    · exact .inl hmem
  · exact .inl h

/-- A step of the broadcast is taken by the broadcast. -/
@[simp] theorem Realtime.onWorld_world (s : Realtime) (w : World) (a : Action) :
    (s.onWorld w a).world = w := by
  rw [Realtime.onWorld.eq_def]
  split <;> (try split) <;> rfl

/-- Two of its steps give something to do: the one that creates the thread, and the one with which
`stop` begins. -/
theorem Realtime.mem_onWorld {s : Realtime} {w : World} {a : Action} {r : Runner} {op : Op}
    (h : op ∈ (s.onWorld w a).pending r) :
    op ∈ s.pending r ∨
      r = .broadcastThread ∧ a = .encoderInfo false ∧ (op = .assign 1 ∨ op = .connectMember) ∨
      r = .stopper ∧ a = .stop ∧ s.world.stopCall = .notCalled ∧ op = .clear := by
  rw [Realtime.onWorld.eq_def] at h
  split at h
  · rcases Realtime.mem_push.mp h with ⟨hr, hmem⟩ | hmem
    · exact .inr (.inl ⟨hr, rfl, by simpa using hmem⟩)
    · exact .inl hmem
  · split at h
    · rename_i hc
      rcases Realtime.mem_push.mp h with ⟨hr, hmem⟩ | hmem
      · exact .inr (.inr ⟨hr, rfl, hc, by simpa using hmem⟩)
      · exact .inl hmem
    · exact .inl h
  · split at h <;> exact .inl h
  · exact .inl h

/-- What there was to do stays when a handler begins, -/
theorem Realtime.mem_callback_of_mem {s : Realtime} {k : ℕ} {ops : List Op} {r : Runner} {op : Op}
    (h : op ∈ s.pending r) : op ∈ (s.callback k ops).pending r := by
  unfold Realtime.callback
  split
  · exact Realtime.mem_push.mpr (.inr h)
  · exact h

/-- and when the broadcast takes a step. -/
theorem Realtime.mem_onWorld_of_mem {s : Realtime} {w : World} {b : Action} {r : Runner} {op : Op}
    (h : op ∈ s.pending r) : op ∈ (s.onWorld w b).pending r := by
  rw [Realtime.onWorld.eq_def]
  split
  · exact Realtime.mem_push.mpr (.inr h)
  · split
    · exact Realtime.mem_push.mpr (.inr h)
    · exact h
  · split <;> exact h
  · exact h

/-- Only the broadcast, what the threads have to do and the statistics may differ. -/
structure SameObjects (s s' : Realtime) : Prop where
  subscription : s'.subscription = s.subscription
  subscriptions : s'.subscriptions = s.subscriptions
  connections : s'.connections = s.connections
  slot : s'.slot = s.slot
  references : s'.references = s.references
  destroyed : s'.destroyed = s.destroyed
  sharedCredentials : s'.sharedCredentials = s.sharedCredentials

/-- A handler that begins leaves the objects alone, -/
theorem sameObjects_callback (s : Realtime) (k : ℕ) (ops : List Op) :
    SameObjects s (s.callback k ops) := by
  unfold Realtime.callback
  split <;> exact ⟨rfl, rfl, rfl, rfl, rfl, rfl, rfl⟩

/-- and so does a step of the broadcast. -/
theorem sameObjects_onWorld (s : Realtime) (w : World) (a : Action) :
    SameObjects s (s.onWorld w a) := by
  rw [Realtime.onWorld.eq_def]
  split <;> (try split) <;> exact ⟨rfl, rfl, rfl, rfl, rfl, rfl, rfl⟩

/-- **What a step does to the objects.**  An operation of a thread, or an event that at most
sets the phase of a connection. -/
inductive ObjectMoves (s : Realtime) : RealtimeAction → Realtime → Prop
  | run (r : Runner) (op : Op) (reply : Reply) (rest : List Op) (t : Realtime) (ops : List Op)
      (out : List RealtimeEvent) (hp : s.pending r = op :: rest)
      (hop : OpMoves (s.pop r rest) r op reply t ops out) :
      ObjectMoves s (.run r reply) (t.push r ops)
  | setPhase (a : RealtimeAction) (c : ℕ) (phase : ConnectionPhase) {s' : Realtime}
      (hsub : s'.subscription = s.subscription) (hsubs : s'.subscriptions = s.subscriptions)
      (hcon : s'.connections = (s.setPhase c phase).connections) : ObjectMoves s a s'
  | keep (a : RealtimeAction) {s' : Realtime} (hsub : s'.subscription = s.subscription)
      (hsubs : s'.subscriptions = s.subscriptions) (hcon : s'.connections = s.connections) :
      ObjectMoves s a s'

/-- Every step is one of these. -/
theorem RealtimeMoves.objectMoves {s s' : Realtime} {a : RealtimeAction}
    {out : List RealtimeEvent} (h : RealtimeMoves s a s' out) : ObjectMoves s a s' := by
  cases h with
  | world b w out hb hs =>
      have hsame := sameObjects_onWorld s w b
      exact .keep _ hsame.subscription hsame.subscriptions hsame.connections
  | run r op reply rest t ops out hp hop => exact .run r op reply rest t ops out hp hop
  | opened c x hi hc hx =>
      have hsame := sameObjects_callback (s.setPhase c .open) x.subscription
        [.connectionInit x.subscription]
      exact .setPhase _ c .open hsame.subscription hsame.subscriptions hsame.connections
  | peerClosed c x hi hc hx => exact .setPhase _ c .closing rfl rfl rfl
  | terminated c x endType hi hc hx => exact .setPhase _ c (.ended endType) rfl rfl rfl
  | ended c x endType hi hc hx =>
      have hsame := sameObjects_callback (s.setPhase c .handled) x.subscription
        [.lockEnded (s.tryNumOf x.subscription) endType]
      exact .setPhase _ c .handled hsame.subscription hsame.subscriptions hsame.connections
  | message c m x hi hc hx =>
      have hsame := sameObjects_callback s x.subscription [Realtime.received x.subscription m]
      exact .keep _ hsame.subscription hsame.subscriptions hsame.connections
  | drop hr =>
      unfold Realtime.dropBroadcast
      split <;> exact .keep _ rfl rfl rfl
  | _ => exact .keep _ rfl rfl rfl

/-- The destructor of the broadcast begins with the reset of the member. -/
theorem Realtime.eq_clear_of_mem_dropBroadcast {s : Realtime} {r : Runner} {op : Op}
    (h : op ∈ (s.dropBroadcast r).2.1) : op = .clear := by
  unfold Realtime.dropBroadcast at h
  split at h
  · exact List.mem_singleton.mp h
  · cases h

/-- `start` creates the thread, which begins with its first step. -/
theorem of_encoderInfo {w w' : World} {out : List Event}
    (h : w.step (.encoderInfo false) = some (w', out)) :
    w.startCall = .awaitingEncoderInfo ∧ w'.thread = .stage .setupSubscription := by
  obtain ⟨w'', hw, heq⟩ := Option.map_eq_some_iff.mp h
  unfold World.encoderInfoStep at hw
  split at hw
  · rename_i hc
    cases hw
    cases heq
    exact ⟨hc, rfl⟩
  · cases hw

/-- What a step gives thread `r` to do. -/
inductive Posted (s : Realtime) : RealtimeAction → Runner → Op → Prop
  | createThread (op : Op) (hc : s.world.startCall = .awaitingEncoderInfo)
      (hop : op = .assign 1 ∨ op = .connectMember) :
      Posted s (.world (.encoderInfo false)) .broadcastThread op
  | storeStopping (hc : s.world.stopCall = .notCalled) : Posted s (.world .stop) .stopper .clear
  | next {r : Runner} {op op' : Op} {reply : Reply} {rest : List Op} {t : Realtime}
      {ops : List Op} {out : List RealtimeEvent} (hp : s.pending r = op :: rest)
      (hop : OpMoves (s.pop r rest) r op reply t ops out) (hmem : op' ∈ ops) :
      Posted s (.run r reply) r op'
  | callback {a : RealtimeAction} {c : ℕ} {x : Connection} {op : Op}
      (hi : s.pending .clientThread = []) (hc : s.connections c = some x)
      (halive : s.alive x.subscription = true)
      (hop : op = .connectionInit x.subscription ∨
        (∃ tryNum endType, op = .lockEnded tryNum endType) ∨
        (∃ m, op = Realtime.received x.subscription m) ∨
        op = .releaseSubscription x.subscription) :
      Posted s a .clientThread op
  | destroy : Posted s .drop .owner .clear

/-- **What there is to do after a step** was there before, or the step gave it. -/
theorem RealtimeMoves.mem_pending {s s' : Realtime} {a : RealtimeAction}
    {out : List RealtimeEvent} (h : RealtimeMoves s a s' out) {r : Runner} {op : Op}
    (hmem : op ∈ s'.pending r) : op ∈ s.pending r ∨ Posted s a r op := by
  cases h with
  | world a w out ha hs =>
      rcases Realtime.mem_onWorld hmem with hold | ⟨rfl, rfl, hop⟩ | ⟨rfl, rfl, hc, rfl⟩
      · exact .inl hold
      · exact .inr (.createThread op (of_encoderInfo hs).1 hop)
      · exact .inr (.storeStopping hc)
  | run r' op' reply rest t ops out hp hop =>
      rcases hop.mem_push hp hmem with ⟨rfl, hnew⟩ | hold
      · exact .inr (.next hp hop hnew)
      · exact .inl hold
  | opened c x hi hc hx =>
      rcases Realtime.mem_callback hmem with hold | ⟨rfl, halive, hop⟩
      · exact .inl hold
      · refine .inr (.callback hi hc halive ?_)
        rcases hop with hop | hop
        · exact .inl (by simpa using hop)
        · exact .inr (.inr (.inr hop))
  | ended c x endType hi hc hx =>
      rcases Realtime.mem_callback hmem with hold | ⟨rfl, halive, hop⟩
      · exact .inl hold
      · refine .inr (.callback hi hc halive ?_)
        rcases hop with hop | hop
        · exact .inr (.inl ⟨_, _, by simpa using hop⟩)
        · exact .inr (.inr (.inr hop))
  | message c m x hi hc hx =>
      rcases Realtime.mem_callback hmem with hold | ⟨rfl, halive, hop⟩
      · exact .inl hold
      · refine .inr (.callback hi hc halive ?_)
        rcases hop with hop | hop
        · exact .inr (.inr (.inl ⟨m, by simpa using hop⟩))
        · exact .inr (.inr (.inr hop))
  | drop hr =>
      rw [Realtime.mem_push, (opFrame_dropBroadcast _ _).pending] at hmem
      rcases hmem with ⟨rfl, hnew⟩ | hold
      · rw [Realtime.eq_clear_of_mem_dropBroadcast hnew]
        exact .inr .destroy
      · exact .inl hold
  | _ => exact .inl hmem

/-- **What there is to do stays** until the thread does it. -/
theorem RealtimeMoves.mem_of_mem {s s' : Realtime} {a : RealtimeAction}
    {out : List RealtimeEvent} (h : RealtimeMoves s a s' out) {r : Runner} {op : Op}
    (hmem : op ∈ s.pending r) :
    op ∈ s'.pending r ∨ ∃ reply rest, a = .run r reply ∧ s.pending r = op :: rest := by
  cases h with
  | world b w out hb hs => exact .inl (Realtime.mem_onWorld_of_mem hmem)
  | run r' op' reply rest t ops out hp hop =>
      rw [Realtime.mem_push, hop.frame.pending]
      by_cases hr : r = r'
      · subst hr
        rw [s.pop_pending_self]
        rw [hp, List.mem_cons] at hmem
        rcases hmem with rfl | hrest
        · exact .inr ⟨reply, rest, rfl, hp⟩
        · exact .inl (.inr hrest)
      · rw [s.pop_pending_of_ne rest hr]
        exact .inl (.inr hmem)
  | opened c x hi hc hx => exact .inl (Realtime.mem_callback_of_mem hmem)
  | ended c x endType hi hc hx => exact .inl (Realtime.mem_callback_of_mem hmem)
  | message c m x hi hc hx => exact .inl (Realtime.mem_callback_of_mem hmem)
  | drop hr =>
      rw [Realtime.mem_push, (opFrame_dropBroadcast _ _).pending]
      exact .inl (.inr hmem)
  | _ => exact .inl hmem

/-! ## Who does what -/

/-- The operations of each thread. -/
def Op.belongs : Runner → Op → Bool
  | .clientThread, _ => true
  | _, .close _ | _, .reset _ => true
  | .broadcastThread, .assign _ | .broadcastThread, .connectMember | .broadcastThread, .dial _
  | .broadcastThread, .keep .. | .broadcastThread, .aborted => true
  | .stopper, .clear | .owner, .clear => true
  | _, _ => false

/-! What letting go of a subscription gives to do is its destructor. -/

/-- That holds when a reference is let go of, -/
theorem Realtime.eq_close_of_mem_release {s : Realtime} {k : ℕ} {op : Op}
    (h : op ∈ (s.release k).2) : op = .close k := by
  unfold Realtime.release at h
  split at h
  · cases h
  · exact List.mem_singleton.mp h

/-- when the member is assigned, -/
theorem Realtime.eq_close_of_mem_assign {s : Realtime} {k tryNum : ℕ} {op : Op}
    (h : op ∈ (s.assign k tryNum).2) : ∃ k', op = .close k' := by
  rw [Realtime.assign.eq_def] at h
  split at h
  · exact ⟨_, Realtime.eq_close_of_mem_release h⟩
  · cases h

/-- and when it is reset. -/
theorem Realtime.eq_close_of_mem_clear {s : Realtime} {op : Op} (h : op ∈ s.clear.2) :
    ∃ k, op = .close k := by
  rw [Realtime.clear.eq_def] at h
  split at h
  · exact ⟨_, Realtime.eq_close_of_mem_release h⟩
  · cases h

/-- **What comes after an operation.** -/
inductive Leads (s : Realtime) : Op → Op → Prop
  -- the destructor of the subscription let go of
  | assign (tryNum k : ℕ) : Leads s (.assign tryNum) (.close k)
  | clear (k : ℕ) : Leads s .clear (.close k)
  | releaseSubscription (k : ℕ) : Leads s (.releaseSubscription k) (.close k)
  | connect (k : ℕ) (hk : s.subscription = some k) : Leads s .connectMember (.close k)
  | connectDial (k : ℕ) (hk : s.subscription = some k) : Leads s .connectMember (.dial k)
  | nullMember : Leads s .connectMember .aborted
  | close (k : ℕ) : Leads s (.close k) (.reset k)
  | dial (k : ℕ) (connection : Option ℕ) : Leads s (.dial k) (.keep k connection)
  | readRefreshToken (k : ℕ) (m : Message) : Leads s (.readRefreshToken k m) (.awaitRefresh k m)
  | refresh (k : ℕ) (m : Message) : Leads s (.awaitRefresh k m) (.writeCredentials k)
  | refuse (k : ℕ) (m : Message) : Leads s (.awaitRefresh k m) (.lockMessage m)
  | raise (k : ℕ) (m : Message) : Leads s (.awaitRefresh k m) .aborted
  | reconnect (k : ℕ) : Leads s (.writeCredentials k) (.close k)
  | reconnectDial (k : ℕ) : Leads s (.writeCredentials k) (.dial k)
  | lockEnded (tryNum : ℕ) (endType : ConnectionEndType) (hd : s.destroyed = false) :
      Leads s (.lockEnded tryNum endType) (.testEnded tryNum endType)
  | lockRetry (tryNum : ℕ) (hd : s.destroyed = false) :
      Leads s (.lockRetry tryNum) (.testRetry tryNum)
  | lockMessage (m : Message) (hd : s.destroyed = false) : Leads s (.lockMessage m) (.handle m)
  -- with the broadcast running
  | setUpEnded (tryNum : ℕ) (endType : ConnectionEndType) (op : Op)
      (hrun : s.world.state.isRunning = true)
      (hop : op = .assign 1 ∨ op = .connectMember ∨ op = .lockRetry tryNum) :
      Leads s (.testEnded tryNum endType) op
  | setUpRetry (tryNum : ℕ) (op : Op) (hrun : s.world.state.isRunning = true)
      (hop : op = .assign (tryNum + 1) ∨ op = .connectMember) : Leads s (.testRetry tryNum) op
  | endEnded (tryNum : ℕ) (endType : ConnectionEndType) :
      Leads s (.testEnded tryNum endType) .releaseBroadcast
  | endRetry (tryNum : ℕ) : Leads s (.testRetry tryNum) .releaseBroadcast
  | handle (m : Message) : Leads s (.handle m) .releaseBroadcast
  | destroy : Leads s .releaseBroadcast .clear

/-- What the handler for an end goes on with, -/
theorem leads_of_mem_afterEnded {s : Realtime} {tryNum : ℕ} {endType : ConnectionEndType} {op : Op}
    (h : op ∈ s.afterEnded tryNum endType) : Leads s (.testEnded tryNum endType) op := by
  rw [Realtime.afterEnded.eq_def] at h
  split at h
  · rename_i hrun
    split at h
    · simp only [List.mem_cons, List.not_mem_nil, or_false] at h
      rcases h with rfl | rfl | rfl
      · exact .setUpEnded _ _ _ hrun (.inl rfl)
      · exact .setUpEnded _ _ _ hrun (.inr (.inl rfl))
      · exact .endEnded _ _
    · rcases List.mem_pair.mp h with rfl | rfl
      · exact .endEnded _ _
      · exact .setUpEnded _ _ _ hrun (.inr (.inr rfl))
  · rw [List.mem_singleton.mp h]
    exact .endEnded _ _

/-- and what it does after the wait. -/
theorem leads_of_mem_afterRetry {s : Realtime} {tryNum : ℕ} {op : Op}
    (h : op ∈ s.afterRetry tryNum) : Leads s (.testRetry tryNum) op := by
  unfold Realtime.afterRetry at h
  split at h
  · rename_i hrun
    simp only [List.mem_cons, List.not_mem_nil, or_false] at h
    rcases h with rfl | rfl | rfl
    · exact .setUpRetry _ _ hrun (.inl rfl)
    · exact .setUpRetry _ _ hrun (.inr rfl)
    · exact .endRetry _
  · rw [List.mem_singleton.mp h]
    exact .endRetry _

/-- What an operation puts in front of the rest comes after it. -/
theorem OpMoves.leads {s s' : Realtime} {r : Runner} {op op' : Op} {reply : Reply}
    {ops : List Op} {out : List RealtimeEvent} (h : OpMoves s r op reply s' ops out)
    (hmem : op' ∈ ops) : Leads s op op' := by
  have hlock : ∀ op₁, op' ∈ (if s.destroyed then [] else [op₁]) →
      op' = op₁ ∧ s.destroyed = false := by
    intro op₁ hlocked
    split at hlocked
    · cases hlocked
    · rename_i hd
      exact ⟨List.mem_singleton.mp hlocked, by simpa using hd⟩
  cases h with
  | assign tryNum k hk =>
      obtain ⟨k', rfl⟩ := Realtime.eq_close_of_mem_assign hmem
      exact .assign tryNum k'
  | clear =>
      obtain ⟨k, rfl⟩ := Realtime.eq_close_of_mem_clear hmem
      exact .clear k
  | releaseSubscription k =>
      rw [Realtime.eq_close_of_mem_release hmem]
      exact .releaseSubscription k
  | connectMember k hk =>
      rcases List.mem_pair.mp hmem with rfl | rfl
      · exact .connect k hk
      · exact .connectDial k hk
  | writeCredentials k =>
      rcases List.mem_pair.mp hmem with rfl | rfl
      · exact .reconnect k
      · exact .reconnectDial k
  | lockEnded tryNum endType =>
      obtain ⟨rfl, hd⟩ := hlock _ hmem
      exact .lockEnded tryNum endType hd
  | lockRetry tryNum =>
      obtain ⟨rfl, hd⟩ := hlock _ hmem
      exact .lockRetry tryNum hd
  | lockMessage m =>
      obtain ⟨rfl, hd⟩ := hlock _ hmem
      exact .lockMessage m hd
  | testEnded tryNum endType => exact leads_of_mem_afterEnded hmem
  | testRetry tryNum => exact leads_of_mem_afterRetry hmem
  | releaseBroadcast =>
      rw [Realtime.eq_clear_of_mem_dropBroadcast hmem]
      exact .destroy
  | nullMember hk => rw [List.mem_singleton.mp hmem]; exact .nullMember
  | close k c hc => rw [List.mem_singleton.mp hmem]; exact .close k
  | dial k c hc => rw [List.mem_singleton.mp hmem]; exact .dial k _
  | dialFails k => rw [List.mem_singleton.mp hmem]; exact .dial k _
  | readRefreshToken k m => rw [List.mem_singleton.mp hmem]; exact .readRefreshToken k m
  | refresh k m => rw [List.mem_singleton.mp hmem]; exact .refresh k m
  | refuse k m => rw [List.mem_singleton.mp hmem]; exact .refuse k m
  | raise k m => rw [List.mem_singleton.mp hmem]; exact .raise k m
  | handle m => rw [List.mem_singleton.mp hmem]; exact .handle m
  | _ => cases hmem

/-- The operations a thread goes on with are its own. -/
theorem Leads.belongs {s : Realtime} {r : Runner} {op op' : Op} (h : Leads s op op')
    (hop : op.belongs r = true) : op'.belongs r = true := by
  cases r with
  | clientThread => rfl
  | broadcastThread => cases h <;> first | rfl | cases hop
  | stopper => cases h <;> first | rfl | cases hop
  | owner => cases h <;> first | rfl | cases hop

/-- **Every thread does its own operations.** -/
def BelongsInv (s : Realtime) : Prop := ∀ r, ∀ op ∈ s.pending r, op.belongs r = true

/-- **Step lemma.** -/
theorem BelongsInv.moves {s s' : Realtime} {a : RealtimeAction} {out : List RealtimeEvent}
    (h : BelongsInv s) (hmoves : RealtimeMoves s a s' out) : BelongsInv s' := by
  intro r op hmem
  rcases hmoves.mem_pending hmem with hold | hnew
  · exact h r op hold
  · cases hnew with
    | createThread op hc hop => rcases hop with rfl | rfl <;> rfl
    | storeStopping hc => rfl
    | next hp hop hops => exact (hop.leads hops).belongs (h _ _ (by rw [hp]; simp))
    | callback hi hc halive hop => rfl
    | destroy => rfl

/-! ## The broadcast -/

section

variable {s s' : Realtime} {a : RealtimeAction} {out : List RealtimeEvent}

/-- A message moves none of the calls and the threads of the broadcast. -/
theorem sameCore_stageUpdate (w : World) (feedIsOnStage live : Bool) :
    SameCore w (w.stageUpdate feedIsOnStage live).1 := by
  have hmoves := moves_of_stageUpdate (s := w) feedIsOnStage live
  generalize (w.stageUpdate feedIsOnStage live).1 = w' at hmoves
  cases hmoves with
  | other _ ha hcore hvideo hout => exact hcore

/-- **The broadcast takes an action of its own, or goes on by a message.** -/
theorem RealtimeMoves.world_cases (h : RealtimeMoves s a s' out) :
    (∃ b out', a = .world b ∧ s.admits b = true ∧ s.world.step b = some (s'.world, out') ∧
      out = out'.map .world) ∨
    (∀ b, a ≠ .world b) ∧ (s'.world = s.world ∨
      ∃ feedIsOnStage live, s'.world = (s.world.stageUpdate feedIsOnStage live).1) := by
  cases h with
  | world b w out ha hs =>
      rw [Realtime.onWorld_world]
      exact .inl ⟨b, out, rfl, ha, hs, rfl⟩
  | run r op reply rest t ops out hp hop => exact .inr ⟨by simp, hop.frame.world⟩
  | opened c x hi hc hx => exact .inr ⟨by simp, .inl (Realtime.callback_world _ _ _)⟩
  | ended c x endType hi hc hx => exact .inr ⟨by simp, .inl (Realtime.callback_world _ _ _)⟩
  | message c m x hi hc hx => exact .inr ⟨by simp, .inl (Realtime.callback_world _ _ _)⟩
  | drop hr => exact .inr ⟨by simp, .inl (Realtime.dropBroadcast_world _ _)⟩
  | _ => exact .inr ⟨by simp, .inl rfl⟩

/-- But for an action of its own the broadcast stays as it is. -/
theorem RealtimeMoves.sameCore (h : RealtimeMoves s a s' out) (ha : ∀ b, a ≠ .world b) :
    SameCore s.world s'.world := by
  rcases h.world_cases with ⟨b, -, rfl, -⟩ | ⟨-, hw | ⟨feedIsOnStage, live, hw⟩⟩
  · exact absurd rfl (ha b)
  · rw [hw]
    exact sameCore_refl
  · rw [hw]
    exact sameCore_stageUpdate _ _ _

/-- What every step of a broadcast preserves, every step here does. -/
theorem RealtimeMoves.world_invariant {I : World → Prop} (h : RealtimeMoves s a s' out)
    (hstep : ∀ w b w' out, I w → Moves w b w' out → I w') (hI : I s.world) : I s'.world := by
  rcases h.world_cases with ⟨b, out', -, -, hs, -⟩ | ⟨-, hw | ⟨feedIsOnStage, live, hw⟩⟩
  · exact hstep _ _ _ _ hI (moves_of_step hs)
  · rw [hw]
    exact hI
  · rw [hw]
    exact hstep _ _ _ _ hI (moves_of_stageUpdate feedIsOnStage live)

/-- Only `detach` empties the slot. -/
theorem RealtimeMoves.slot_eq (h : RealtimeMoves s a s' out) (ha : a ≠ .detach) :
    s'.slot = s.slot := by
  cases h with
  | world b w out hb hs => exact (sameObjects_onWorld s w b).slot
  | run r op reply rest t ops out hp hop => exact hop.frame.slot
  | opened c x hi hc hx => exact (sameObjects_callback _ _ _).slot
  | ended c x endType hi hc hx => exact (sameObjects_callback _ _ _).slot
  | message c m x hi hc hx => exact (sameObjects_callback _ _ _).slot
  | detach hslot hstop => exact absurd rfl ha
  | drop hr => exact (opFrame_dropBroadcast _ _).slot
  | _ => rfl

/-- The broadcast thread sets up the subscription in its first step, and the slot is emptied
after `stop`. -/
structure WorldInv (s : Realtime) : Prop where
  state : StateInv s.world
  join : JoinInv s.world
  setup : s.pending .broadcastThread ≠ [] → s.world.thread = .stage .setupSubscription
  slot : s.slot = false → s.world.stopCall = .returned

/-- It holds of a new broadcast. -/
theorem worldInv_init (feedId : String) (title : Bytes) (rating : Rating) (gameId : Bytes) :
    WorldInv (.init feedId title rating gameId) where
  state := stateInv_init title rating gameId
  join := joinInv_init title rating gameId
  setup h := absurd rfl h
  slot h := by cases h

/-- The broadcast thread is past its first step only with nothing of it left to do. -/
theorem WorldInv.setup_moves (h : WorldInv s) (hmoves : RealtimeMoves s a s' out)
    (hp : s'.pending .broadcastThread ≠ []) : s'.world.thread = .stage .setupSubscription := by
  have hwas : s.pending .broadcastThread ≠ [] ∨ a = .world (.encoderInfo false) := by
    obtain ⟨op, hop⟩ := List.exists_mem_of_ne_nil _ hp
    rcases hmoves.mem_pending hop with hold | hnew
    · exact .inl (List.ne_nil_of_mem hold)
    · cases hnew with
      | createThread _ _ _ => exact .inr rfl
      | next hpending _ _ => exact .inl (by rw [hpending]; simp)
  rcases hmoves.world_cases with ⟨b, out', rfl, ha, hs, -⟩ | ⟨ha, -⟩
  · rcases hwas with hne | hcreate
    · have hsetup := h.setup hne
      rcases (moves_of_step hs).cases_thread with ⟨o, rfl, -, -⟩ | ⟨-, -, hsame | ⟨-, hnew⟩⟩
      · -- the thread does not go on
        have hempty : s.pending .broadcastThread = [] := by
          simpa [Realtime.admits, hsetup] using ha
        exact absurd hempty hne
      · rw [hsame, hsetup]
      · exact hnew
    · cases hcreate
      exact (of_encoderInfo hs).2
  · rw [(hmoves.sameCore ha).thread, h.setup (hwas.resolve_right (ha _))]

/-- **Step lemma.** -/
theorem WorldInv.moves (h : WorldInv s) (hmoves : RealtimeMoves s a s' out) : WorldInv s' where
  state := hmoves.world_invariant (I := StateInv) (fun _ _ _ _ hi hm => hi.moves hm) h.state
  join := hmoves.world_invariant (I := JoinInv) (fun _ _ _ _ hi hm => hi.moves hm) h.join
  setup := h.setup_moves hmoves
  slot hslot := by
    have hstop : s.world.stopCall = .returned := by
      by_cases hdetach : a = .detach
      · subst hdetach
        cases hmoves with
        | detach hs hstop => exact hstop
      · rw [hmoves.slot_eq hdetach] at hslot
        exact h.slot hslot
    exact hmoves.world_invariant (I := fun w => w.stopCall = .returned)
      (fun _ _ _ _ hi hm => hm.stopCall_of_returned hi) hstop

/-- After `stop` the broadcast thread has nothing left to do. -/
theorem WorldInv.pending_of_returned (h : WorldInv s) (hstop : s.world.stopCall = .returned) :
    s.pending .broadcastThread = [] := by
  by_contra hne
  have hjoin := h.join.joined (.inr hstop)
  rw [World.canJoin, h.setup hne] at hjoin
  simp at hjoin

end

/-! ## References to subscriptions -/

namespace Realtime

/-- A subscription is referred to by the member or by a handler. -/
theorem refers_iff {s : Realtime} {k : ℕ} :
    s.refers k = true ↔
      s.subscription = some k ∨ .releaseSubscription k ∈ s.pending .clientThread := by
  simp [refers]

/-- More to do takes no reference away. -/
theorem refers_mono {s s' : Realtime} {k : ℕ} (h : s.refers k = true)
    (hsub : s'.subscription = s.subscription)
    (hp : ∀ op ∈ s.pending .clientThread, op ∈ s'.pending .clientThread) :
    s'.refers k = true := by
  rw [refers_iff] at h ⊢
  rw [hsub]
  exact h.imp_right (hp _)

/-- A change to one subscription leaves the others alone. -/
theorem alive_setSubscription (s : Realtime) (k k' : ℕ) (f : Subscription → Subscription) :
    (s.setSubscription k f).alive k' =
      if k' = k then (s.subscriptions k).any fun x => (f x).alive else s.alive k' := by
  rw [alive, setSubscription]
  by_cases hk : k' = k
  · subst hk
    simp [Option.any_map]
  · simp [hk, alive]

/-- What is there after a reference was let go of was there before, and is held by another one. -/
theorem alive_release {s : Realtime} {k k' : ℕ} (h : (s.release k).1.alive k' = true) :
    s.alive k' = true ∧ (k' = k → s.refers k = true) := by
  unfold release at h
  split at h
  · rename_i hrefers
    exact ⟨h, fun _ => hrefers⟩
  · rw [alive_setSubscription] at h
    split at h
    · simp at h
    · rename_i hk
      exact ⟨h, fun heq => absurd heq hk⟩

@[simp] theorem refers_release (s : Realtime) (k k' : ℕ) :
    (s.release k).1.refers k' = s.refers k' := by
  unfold release
  split <;> rfl

/-- A handle does not keep a subscription. -/
@[simp] theorem alive_assignHandle (s : Realtime) (k k' : ℕ) (connection : Option ℕ) :
    (s.assignHandle k connection).alive k' = s.alive k' := by
  rw [assignHandle.eq_def]
  split <;> rw [alive_setSubscription] <;> split
  · rename_i hk
    rw [hk]
    rfl
  · rfl
  · rename_i hk
    rw [hk]
    rfl
  · rfl

@[simp] theorem refers_assignHandle (s : Realtime) (k k' : ℕ) (connection : Option ℕ) :
    (s.assignHandle k connection).refers k' = s.refers k' := by
  rw [assignHandle.eq_def]
  split <;> rfl

/-- A subscription that is there after the assignment is the new one, or was there and is
held. -/
theorem alive_assign {s : Realtime} {k k' tryNum : ℕ}
    (h : (s.assign k tryNum).1.alive k' = true) :
    k' = k ∨ s.alive k' = true ∧ (s.subscription = some k' →
      .releaseSubscription k' ∈ s.pending .clientThread) := by
  by_cases hk : k' = k
  · exact .inl hk
  right
  have hnew : ∀ t : Realtime, t.subscriptions = Function.update s.subscriptions k
      (some { tryNum }) → t.alive k' = s.alive k' := by
    intro t ht
    rw [alive, alive, ht, Function.update_of_ne hk]
  rw [assign.eq_def] at h
  split at h
  · rename_i old hold
    obtain ⟨halive, hheld⟩ := alive_release h
    rw [hnew _ rfl] at halive
    refine ⟨halive, fun hsub => ?_⟩
    rw [hold] at hsub
    have hrefers := hheld (Option.some.inj hsub).symm
    rw [← Option.some.inj hsub]
    apply (refers_iff.mp hrefers).resolve_left
    intro hmember
    exact hk ((Option.some.inj hsub).symm.trans (Option.some.inj hmember).symm)
  · rename_i hnone
    rw [hnew _ rfl] at h
    exact ⟨h, fun hsub => by rw [hnone] at hsub; cases hsub⟩

@[simp] theorem release_subscription (s : Realtime) (k : ℕ) :
    (s.release k).1.subscription = s.subscription := by
  unfold release
  split <;> rfl

@[simp] theorem assignHandle_subscription (s : Realtime) (k : ℕ) (connection : Option ℕ) :
    (s.assignHandle k connection).subscription = s.subscription := by
  rw [assignHandle.eq_def]
  split <;> rfl

@[simp] theorem handleMessage_subscription (s : Realtime) (m : Message) :
    (s.handleMessage m).1.subscription = s.subscription := by
  cases m <;> rfl

@[simp] theorem dropBroadcast_subscription (s : Realtime) (r : Runner) :
    (s.dropBroadcast r).1.subscription = s.subscription := by
  unfold dropBroadcast
  split <;> rfl

@[simp] theorem assign_subscription (s : Realtime) (k tryNum : ℕ) :
    (s.assign k tryNum).1.subscription = some k := by
  rw [assign.eq_def]
  split
  · rw [release_subscription]
  · rfl

@[simp] theorem clear_subscription (s : Realtime) : s.clear.1.subscription = none := by
  rw [clear.eq_def]
  split
  · rw [release_subscription]
  · rename_i hnone
    exact hnone

/-- The connections stay when a reference is let go of, -/
theorem connections_release (s : Realtime) (k : ℕ) :
    (s.release k).1.connections = s.connections := by
  unfold release
  split <;> rfl

/-- when the member is assigned, -/
theorem connections_assign (s : Realtime) (k tryNum : ℕ) :
    (s.assign k tryNum).1.connections = s.connections := by
  rw [assign.eq_def]
  split
  · rw [connections_release]
  · rfl

/-- and when it is reset. -/
theorem connections_clear (s : Realtime) : s.clear.1.connections = s.connections := by
  rw [clear.eq_def]
  split
  · rw [connections_release]
  · rfl

/-- A subscription that is there after the reset was there, and is held. -/
theorem alive_clear {s : Realtime} {k : ℕ} (h : s.clear.1.alive k = true) :
    s.alive k = true ∧ (s.subscription = some k →
      .releaseSubscription k ∈ s.pending .clientThread) := by
  rw [clear.eq_def] at h
  split at h
  · rename_i old hold
    obtain ⟨halive, hheld⟩ := alive_release h
    refine ⟨halive, fun hsub => ?_⟩
    rw [hold] at hsub
    have hrefers := hheld (Option.some.inj hsub).symm
    rw [← Option.some.inj hsub]
    exact (refers_iff.mp hrefers).resolve_left (by simp)
  · rename_i hnone
    exact ⟨h, fun hsub => by rw [hnone] at hsub; cases hsub⟩

end Realtime

/-- **The member** is assigned or cleared by an operation, or stays. -/
theorem RealtimeMoves.subscription_cases {s s' : Realtime} {a : RealtimeAction}
    {out : List RealtimeEvent} (h : RealtimeMoves s a s' out) :
    s'.subscription = s.subscription ∨ s'.subscription = none ∨
      ∃ r k tryNum rest, a = .run r (.fresh k) ∧ s.pending r = .assign tryNum :: rest ∧
        s'.subscription = some k := by
  cases h.objectMoves with
  | setPhase a c phase hsub hsubs hcon => exact .inl hsub
  | keep a hsub hsubs hcon => exact .inl hsub
  | run r op reply rest t ops out hp hop =>
      cases hop with
      | assign tryNum k hk =>
          exact .inr (.inr ⟨r, k, tryNum, rest, rfl, hp, Realtime.assign_subscription _ _ _⟩)
      | clear => exact .inr (.inl (Realtime.clear_subscription _))
      | reset k => exact .inl (Realtime.assignHandle_subscription _ k none)
      | keep k connection => exact .inl (Realtime.assignHandle_subscription _ k connection)
      | releaseSubscription k => exact .inl (Realtime.release_subscription _ _)
      | handle m => exact .inl (Realtime.handleMessage_subscription _ m)
      | releaseBroadcast => exact .inl (Realtime.dropBroadcast_subscription _ _)
      | _ => exact .inl rfl

/-- **References.**  A subscription that is alive is referred to. -/
def RefInv (s : Realtime) : Prop := ∀ k, s.alive k = true → s.refers k = true

section

variable {s s' : Realtime} {a : RealtimeAction} {out : List RealtimeEvent}

/-- An operation, in a state without the references that it is about to give up. -/
theorem OpMoves.refInv {r : Runner} {op : Op} {reply : Reply} {ops : List Op}
    {out : List RealtimeEvent} (h : OpMoves s r op reply s' ops out)
    (hinv : ∀ k, s.alive k = true → s.refers k = true ∨ op = .releaseSubscription k) :
    RefInv s' := by
  intro k halive
  cases h with
  | assign tryNum k' hk =>
      rcases Realtime.alive_assign halive with rfl | ⟨hwas, hheld⟩
      · exact Realtime.refers_iff.mpr (.inl (s.assign_subscription _ _))
      · rw [Realtime.refers_iff, (sameBroadcast_assign s k' tryNum).pending]
        have hrefers := (hinv k hwas).resolve_right (by simp)
        exact .inr ((Realtime.refers_iff.mp hrefers).elim hheld id)
  | clear =>
      obtain ⟨hwas, hheld⟩ := Realtime.alive_clear halive
      rw [Realtime.refers_iff, (sameBroadcast_clear s).pending]
      have hrefers := (hinv k hwas).resolve_right (by simp)
      exact .inr ((Realtime.refers_iff.mp hrefers).elim hheld id)
  | releaseSubscription k' =>
      obtain ⟨hwas, hheld⟩ := Realtime.alive_release halive
      rw [Realtime.refers_release]
      rcases hinv k hwas with hrefers | heq
      · exact hrefers
      · obtain rfl : k' = k := Op.releaseSubscription.inj heq
        exact hheld rfl
  | reset k' =>
      rw [Realtime.alive_assignHandle] at halive
      rw [Realtime.refers_assignHandle]
      exact (hinv k halive).resolve_right (by simp)
  | keep k' connection =>
      rw [Realtime.alive_assignHandle] at halive
      rw [Realtime.refers_assignHandle]
      exact (hinv k halive).resolve_right (by simp)
  | handle m =>
      have hsame : (s.handleMessage m).1.alive k = s.alive k ∧
          (s.handleMessage m).1.refers k = s.refers k := by
        cases m <;> exact ⟨rfl, rfl⟩
      rw [hsame.1] at halive
      rw [hsame.2]
      exact (hinv k halive).resolve_right (by simp)
  | releaseBroadcast =>
      have hsame : (s.dropBroadcast r).1.alive k = s.alive k ∧
          (s.dropBroadcast r).1.refers k = s.refers k := by
        unfold Realtime.dropBroadcast
        split <;> exact ⟨rfl, rfl⟩
      rw [hsame.1] at halive
      rw [hsame.2]
      exact (hinv k halive).resolve_right (by simp)
  | _ => exact (hinv k halive).resolve_right (by simp)

/-- More to do, and nothing else. -/
theorem RefInv.of_sameObjects (h : RefInv s) (hsame : SameObjects s s')
    (hp : ∀ op ∈ s.pending .clientThread, op ∈ s'.pending .clientThread) : RefInv s' := by
  intro k halive
  rw [Realtime.alive, hsame.subscriptions] at halive
  exact Realtime.refers_mono (h k halive) hsame.subscription hp

/-- An event of a connection changes the connection and gives the thread something to do. -/
theorem RefInv.callback {c k : ℕ} {phase : ConnectionPhase} {ops : List Op} (h : RefInv s) :
    RefInv ((s.setPhase c phase).callback k ops) := by
  have hphase : RefInv (s.setPhase c phase) := h
  exact hphase.of_sameObjects (sameObjects_callback _ k ops)
    fun _ hop => Realtime.mem_callback_of_mem hop

/-- **Step lemma.** -/
theorem RefInv.moves (h : RefInv s) (hmoves : RealtimeMoves s a s' out) : RefInv s' := by
  cases hmoves with
  | world b w out hb hs =>
      exact h.of_sameObjects (sameObjects_onWorld s w b) fun _ hop =>
        Realtime.mem_onWorld_of_mem hop
  | run r op reply rest t ops out hp hop =>
      have ht : RefInv t := by
        apply hop.refInv
        intro k halive
        rcases Realtime.refers_iff.mp (h k halive) with hmember | hheld
        · exact .inl (Realtime.refers_iff.mpr (.inl hmember))
        · -- the reference may be the one that the operation gives up
          by_cases hr : r = .clientThread
          · subst hr
            rw [hp, List.mem_cons] at hheld
            rcases hheld with heq | hrest
            · exact .inr heq.symm
            · refine .inl (Realtime.refers_iff.mpr (.inr ?_))
              rwa [s.pop_pending_self]
          · refine .inl (Realtime.refers_iff.mpr (.inr ?_))
            rwa [s.pop_pending_of_ne rest (Ne.symm hr)]
      exact ht.of_sameObjects ⟨rfl, rfl, rfl, rfl, rfl, rfl, rfl⟩
        fun _ hmem => Realtime.mem_push.mpr (.inr hmem)
  | opened c x hi hc hx => exact h.callback
  | ended c x endType hi hc hx => exact h.callback
  | message c m x hi hc hx =>
      exact h.of_sameObjects (sameObjects_callback _ _ _) fun _ hop =>
        Realtime.mem_callback_of_mem hop
  | drop hr =>
      unfold Realtime.dropBroadcast
      split
      · exact h.of_sameObjects (s := { s with references := s.references - 1, destroyed := true })
          ⟨rfl, rfl, rfl, rfl, rfl, rfl, rfl⟩ fun _ hmem => Realtime.mem_push.mpr (.inr hmem)
      · exact h.of_sameObjects (s := { s with references := s.references - 1 })
          ⟨rfl, rfl, rfl, rfl, rfl, rfl, rfl⟩ fun _ hmem => Realtime.mem_push.mpr (.inr hmem)
  | _ => exact h

/-- Only what a handler holds is left of subscriptions when the member is null. -/
theorem RefInv.eq_false_of_idle (h : RefInv s) (hsub : s.subscription = none)
    (hi : s.pending .clientThread = []) (k : ℕ) : s.alive k = false := by
  by_contra halive
  have hrefers := h k (by simpa using halive)
  rw [Realtime.refers_iff, hsub, hi] at hrefers
  simp at hrefers

end

/-! ## Connections -/

/-- A connection stays with its subscription, and without a handle if it has none. -/
structure Connection.Becomes (x x' : Connection) : Prop where
  subscription : x'.subscription = x.subscription
  discarded : x.discarded = true → x'.discarded = true

theorem Connection.becomes_refl (x : Connection) : x.Becomes x := ⟨rfl, id⟩

section

variable {s s' : Realtime} {a : RealtimeAction} {out : List RealtimeEvent} {c : ℕ}
  {x : Connection}

/-- A change to one connection leaves the others alone. -/
theorem Realtime.setConnection_becomes (hx : s.connections c = some x) (c' : ℕ)
    {f : Connection → Connection} (hf : ∀ x : Connection, x.Becomes (f x)) :
    ∃ x', (s.setConnection c' f).connections c = some x' ∧ x.Becomes x' := by
  by_cases heq : c = c'
  · subst heq
    exact ⟨f x, by simp [Realtime.setConnection, hx], hf x⟩
  · exact ⟨x, by simp [Realtime.setConnection, heq, hx], x.becomes_refl⟩

/-- A handle that is overwritten marks its connection as discarded. -/
theorem Realtime.assignHandle_becomes (hx : s.connections c = some x) (k : ℕ)
    (connection : Option ℕ) :
    ∃ x', (s.assignHandle k connection).connections c = some x' ∧ x.Becomes x' := by
  rw [Realtime.assignHandle.eq_def]
  split
  · exact Realtime.setConnection_becomes hx _ fun _ => ⟨rfl, fun _ => rfl⟩
  · exact ⟨x, hx, x.becomes_refl⟩

/-- No operation takes a connection away. -/
theorem OpMoves.becomes {r : Runner} {op : Op} {reply : Reply} {ops : List Op}
    (h : OpMoves s r op reply s' ops out) (hx : s.connections c = some x) :
    ∃ x', s'.connections c = some x' ∧ x.Becomes x' := by
  have hsame : ∀ t : Realtime, t.connections = s.connections →
      ∃ x', t.connections c = some x' ∧ x.Becomes x' :=
    fun t ht => ⟨x, by rw [ht, hx], x.becomes_refl⟩
  cases h with
  | assign tryNum k hk => exact hsame _ (Realtime.connections_assign s k tryNum)
  | close k c' hc => exact Realtime.setConnection_becomes hx _ fun _ => ⟨rfl, id⟩
  | reset k => exact Realtime.assignHandle_becomes hx k none
  | keep k connection => exact Realtime.assignHandle_becomes hx k connection
  | dial k c' hc =>
      have hne : c ≠ c' := by
        rintro rfl
        rw [hc] at hx
        cases hx
      exact ⟨x, by simp [hne, hx], x.becomes_refl⟩
  | clear => exact hsame _ (Realtime.connections_clear s)
  | releaseSubscription k => exact hsame _ (Realtime.connections_release s k)
  | handle m => cases m <;> exact hsame _ rfl
  | releaseBroadcast =>
      unfold Realtime.dropBroadcast
      split <;> exact hsame _ rfl
  | _ => exact hsame _ rfl

/-- **A connection goes on as what it was.** -/
theorem RealtimeMoves.becomes (h : RealtimeMoves s a s' out) (hx : s.connections c = some x) :
    ∃ x', s'.connections c = some x' ∧ x.Becomes x' := by
  cases h.objectMoves with
  | run r op reply rest t ops out hp hop =>
      have hpop : (s.pop r rest).connections c = some x := hx
      exact hop.becomes hpop
  | setPhase a c' phase hsub hsubs hcon =>
      rw [hcon]
      exact Realtime.setConnection_becomes hx c' fun _ => ⟨rfl, id⟩
  | keep a hsub hsubs hcon =>
      rw [hcon]
      exact ⟨x, hx, x.becomes_refl⟩

end

/-! ## What is seen -/

/-- **What an operation of thread `r` shows.** -/
inductive OpShows (s : Realtime) (r : Runner) : Op → Reply → RealtimeEvent → Prop
  | created (tryNum k : ℕ) : OpShows s r (.assign tryNum) (.fresh k) (.created k)
  | setUp (k : ℕ) : OpShows s r .connectMember .success (.setUp k)
  | disconnected (k c : ℕ) (hc : s.handleOf k = some c) :
      OpShows s r (.close k) .success (.disconnected c)
  | dialed (k c : ℕ) : OpShows s r (.dial k) (.fresh c) (.dialed k c)
  | dialFailed (k : ℕ) : OpShows s r (.dial k) .failure (.dialFailed k)
  | connectionInit (k : ℕ) : OpShows s r (.connectionInit k) .success .credentialsUsed
  | readRefreshToken (k : ℕ) (m : Message) :
      OpShows s r (.readRefreshToken k m) .success .credentialsUsed
  | writeCredentials (k : ℕ) : OpShows s r (.writeCredentials k) .success .credentialsUsed
  | refreshed (k : ℕ) : OpShows s r (.writeCredentials k) .success (.refreshed k)
  | handle (m : Message) (e : Event) (he : e ∈ (s.handleMessage m).2) :
      OpShows s r (.handle m) .success (.world e)
  | destroyed (hslot : s.slot = false) (href : s.references = 0) :
      OpShows s r .releaseBroadcast .success (.destroyed r)

/-- **What a step shows.** -/
inductive Shows (s : Realtime) : RealtimeAction → RealtimeEvent → Prop
  | world (b : Action) (e : Event) : Shows s (.world b) (.world e)
  | run {r : Runner} {op : Op} {reply : Reply} {e : RealtimeEvent} (rest : List Op)
      (hp : s.pending r = op :: rest) (hop : OpShows (s.pop r rest) r op reply e) :
      Shows s (.run r reply) e
  | endedHandler {c : ℕ} {x : Connection} (hi : s.pending .clientThread = [])
      (hc : s.connections c = some x) (halive : s.alive x.subscription = true) :
      Shows s (.ended c) (.endedHandler c)
  | destroyed : Shows s .drop (.destroyed .owner)
  | sendStats (hn : 0 < s.statsTasks) : Shows s .sendStats .credentialsUsed
  | signOut : Shows s .signOut .signedOut

section

variable {s s' : Realtime} {a : RealtimeAction} {out : List RealtimeEvent}

/-- Letting go of a reference destroys the broadcast when it was the last one. -/
theorem Realtime.dropBroadcast_cases (s : Realtime) (r : Runner) :
    (s.dropBroadcast r = ({ s with destroyed := true }, [.clear], [.destroyed r]) ∧
      s.slot = false ∧ s.references = 0 ∧ s.clientHolds = false) ∨
    s.dropBroadcast r = (s, [], []) ∧
      (s.slot = true ∨ 0 < s.references ∨ s.clientHolds = true) := by
  unfold Realtime.dropBroadcast
  split
  · rename_i hlast
    exact .inl ⟨rfl, by simpa using hlast⟩
  · rename_i hlast
    refine .inr ⟨rfl, ?_⟩
    by_cases hslot : s.slot = true
    · exact .inl hslot
    by_cases hr : 0 < s.references
    · exact .inr (.inl hr)
    right
    right
    by_contra hholds
    exact hlast ⟨by simpa using hslot, by omega, by simpa using hholds⟩

/-- What an operation shows, it shows for a reason. -/
theorem OpMoves.shows {r : Runner} {op : Op} {reply : Reply} {ops : List Op}
    (h : OpMoves s r op reply s' ops out) {e : RealtimeEvent} (hmem : e ∈ out) :
    OpShows s r op reply e := by
  cases h with
  | assign tryNum k hk =>
      obtain rfl := List.mem_singleton.mp hmem
      exact .created tryNum k
  | connectMember k hk =>
      obtain rfl := List.mem_singleton.mp hmem
      exact .setUp k
  | close k c hc =>
      obtain rfl := List.mem_singleton.mp hmem
      exact .disconnected k c hc
  | dial k c hc =>
      obtain rfl := List.mem_singleton.mp hmem
      exact .dialed k c
  | dialFails k =>
      obtain rfl := List.mem_singleton.mp hmem
      exact .dialFailed k
  | connectionInit k =>
      obtain rfl := List.mem_singleton.mp hmem
      exact .connectionInit k
  | readRefreshToken k m =>
      obtain rfl := List.mem_singleton.mp hmem
      exact .readRefreshToken k m
  | writeCredentials k =>
      rcases List.mem_pair.mp hmem with rfl | rfl
      · exact .writeCredentials k
      · exact .refreshed k
  | handle m =>
      obtain ⟨e, he, rfl⟩ := List.mem_map.mp hmem
      exact .handle m e he
  | releaseBroadcast =>
      rcases s.dropBroadcast_cases r with ⟨heq, hslot, href, -⟩ | ⟨heq, -⟩
      · rw [heq] at hmem
        obtain rfl := List.mem_singleton.mp hmem
        exact .destroyed hslot href
      · rw [heq] at hmem
        cases hmem
  | _ => cases hmem

/-- **Inversion of what is seen.** -/
theorem RealtimeMoves.shows (h : RealtimeMoves s a s' out) {e : RealtimeEvent} (hmem : e ∈ out) :
    Shows s a e := by
  cases h with
  | world b w out hb hs =>
      obtain ⟨e, -, rfl⟩ := List.mem_map.mp hmem
      exact .world b e
  | run r op reply rest t ops out hp hop => exact .run rest hp (hop.shows hmem)
  | ended c x endType hi hc hx =>
      split at hmem
      · rename_i halive
        obtain rfl := List.mem_singleton.mp hmem
        exact .endedHandler hi hc halive
      · cases hmem
  | drop hr =>
      rcases Realtime.dropBroadcast_cases { s with references := s.references - 1 } .owner with
        ⟨heq, -⟩ | ⟨heq, -⟩
      · rw [heq] at hmem
        obtain rfl := List.mem_singleton.mp hmem
        exact .destroyed
      · rw [heq] at hmem
        cases hmem
  | sendStats hn =>
      obtain rfl := List.mem_singleton.mp hmem
      exact .sendStats hn
  | signOut hslot hc =>
      obtain rfl := List.mem_singleton.mp hmem
      exact .signOut
  | _ => cases hmem

end

/-! ## Every run -/

section

variable {feedId : String} {title gameId : Bytes} {rating : Rating}
  {tr : List (Realtime × RealtimeAction)} {es : List RealtimeEvent} {s : Realtime}

/-- **Run lemmas.** -/
theorem RealtimeRuns.worldInv (h : RealtimeRuns feedId title rating gameId tr es s) :
    WorldInv s :=
  Machine.Run.invariant (worldInv_init feedId title rating gameId)
    (fun _ _ _ _ hi hs => hi.moves (realtimeMoves_of_step hs)) h

theorem RealtimeRuns.belongsInv (h : RealtimeRuns feedId title rating gameId tr es s) :
    BelongsInv s :=
  Machine.Run.invariant (I := BelongsInv) (fun _ _ hop => by cases hop)
    (fun _ _ _ _ hi hs => hi.moves (realtimeMoves_of_step hs)) h

theorem RealtimeRuns.refInv (h : RealtimeRuns feedId title rating gameId tr es s) :
    RefInv s :=
  Machine.Run.invariant (I := RefInv) (fun _ halive => by cases halive)
    (fun _ _ _ _ hi hs => hi.moves (realtimeMoves_of_step hs)) h

end

end Caff
