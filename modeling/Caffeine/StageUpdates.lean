/-
# The message handler of the stage subscription

The `messageHandler` of `Broadcast::setupSubscription`.  The websocket thread runs it for
one message after another, whichever subscription brought the message, while the state of
the broadcast changes on other threads.  The handler moves `subscriptionState` on, which
only it accesses, and then reads the state of the broadcast up to two times.

`watchMachine allowed` is the handler with the state changes `allowed` to the others.  The
first part of the file is about any changes at all.
-/
import Caffeine.BroadcastState

namespace Caff

open Machine (holds_of_some holds_of_guard holds_of_ite)

/-! ## Messages -/

/-- What the handler reads of a `StageSubscriptionPayload`: the ids of the feeds on the
stage, and whether it is live. -/
structure StageUpdate where
  feeds : List String
  live : Bool
  deriving DecidableEq, Repr

/-- The feed is on the stage. -/
def StageUpdate.shows (u : StageUpdate) (feedId : String) : Bool := u.feeds.any (· = feedId)

/-- A `GraphqlResponse` of the subscription. -/
inductive Message
  | update (u : StageUpdate)
  | errors (messages : List String)
  deriving DecidableEq, Repr

/-! ## The handler -/

namespace SubscriptionState

/-- Where an update takes the subscription. -/
def next (st : SubscriptionState) (feedIsOnStage live : Bool) : SubscriptionState :=
  let st := if st = .none then .open else st
  if feedIsOnStage then
    let st := if st = .open then .feedHasAppeared else st
    if live then .stageHasGoneLive else st
  else st

/-- The feed has appeared. -/
def appeared (st : SubscriptionState) : Bool :=
  st = .feedHasAppeared ∨ st = .stageHasGoneLive

/-- The order `None < Open < FeedHasAppeared < StageHasGoneLive`. -/
def rank : SubscriptionState → ℕ
  | .none => 0
  | .open => 1
  | .feedHasAppeared => 2
  | .stageHasGoneLive => 3

end SubscriptionState

/-- `isOnline` of a state. -/
def State.isOnline : State → Bool
  | .offline | .starting | .stopping => false
  | .streaming | .live => true

/-- Where the handler is: between messages, or about to read the state, for the feed or
for the stage. -/
inductive HandlerStep
  | idle
  | testOnline (live : Bool)
  | testLive
  deriving DecidableEq, Repr

structure Watch where
  feedId : String
  state : State := .offline
  subscriptionState : SubscriptionState := .none
  handler : HandlerStep := .idle
  failed : Bool := false  -- a failure has been dispatched
  deriving DecidableEq, Repr

inductive WatchEvent
  | received (m : Message)
  | subscriptionOpened
  | failureReported (error : Result)
  deriving DecidableEq, Repr

inductive WatchAction
  | message (m : Message)
  | handler
  | failure (error : Result)
  | state (st : State)
  deriving DecidableEq, Repr

namespace Watch

/-- The handler goes on behind the test for the feed. -/
def afterFeed (st : SubscriptionState) (live : Bool) : HandlerStep :=
  if !live ∧ st = .stageHasGoneLive then .testLive else .idle

/-- The handler reports a failure and returns. -/
def report (s : Watch) (error : Result) : Watch × List WatchEvent :=
  ({ s with handler := .idle, failed := true }, [.failureReported error])

/-- The handler on an update, up to its first read of the state. -/
def receive (s : Watch) (u : StageUpdate) : Watch × List WatchEvent :=
  let opened : List WatchEvent :=
    if s.subscriptionState = .none then [.subscriptionOpened] else []
  let st := s.subscriptionState.next (u.shows s.feedId) u.live
  ({ s with
      subscriptionState := st
      handler :=
        if !u.shows s.feedId ∧ st.appeared then .testOnline u.live else afterFeed st u.live },
    .received (.update u) :: opened)

/-- The handler on a message. -/
def handle (s : Watch) : Message → Watch × List WatchEvent
  | .update u => s.receive u
  | .errors messages =>
      ((s.report .broadcastFailed).1,
        .received (.errors messages) :: (s.report .broadcastFailed).2)

def step (allowed : State → State → Bool) (s : Watch) :
    WatchAction → Option (Watch × List WatchEvent)
  | .message m => if s.handler = .idle then some (s.handle m) else none
  | .handler =>
      match s.handler with
      | .idle => none
      | .testOnline live =>
          if s.state.isOnline then some (s.report .takeover)
          else some ({ s with handler := afterFeed s.subscriptionState live }, [])
      | .testLive =>
          if s.state = .live then some (s.report .takeover)
          else some ({ s with handler := .idle }, [])
  -- a failure found by anything else
  | .failure error =>
      if error ≠ .takeover then some ({ s with failed := true }, [.failureReported error])
      else none
  | .state st => if allowed s.state st then some ({ s with state := st }, []) else none

end Watch

/-- The handler beside changes of the state. -/
def watchMachine (allowed : State → State → Bool) : Machine Watch WatchAction WatchEvent :=
  ⟨Watch.step allowed⟩

/-! ## What one step can do -/

/-- The updates received, the latest first. -/
def updatesOf (es : List WatchEvent) : List StageUpdate :=
  (es.filterMap fun
    | .received (.update u) => some u
    | _ => none).reverse

inductive WatchMoves (allowed : State → State → Bool) (s : Watch) :
    WatchAction → Watch → List WatchEvent → Prop
  | receive (u : StageUpdate) (hh : s.handler = .idle) :
      WatchMoves allowed s (.message (.update u)) (s.receive u).1 (s.receive u).2
  | refuse (messages : List String) (hh : s.handler = .idle) :
      WatchMoves allowed s (.message (.errors messages)) (s.report .broadcastFailed).1
        [.received (.errors messages), .failureReported .broadcastFailed]
  | loseFeed (live : Bool) (hh : s.handler = .testOnline live) (hs : s.state.isOnline = true) :
      WatchMoves allowed s .handler (s.report .takeover).1 [.failureReported .takeover]
  | passFeed (live : Bool) (hh : s.handler = .testOnline live) (hs : s.state.isOnline = false) :
      WatchMoves allowed s .handler
        { s with handler := Watch.afterFeed s.subscriptionState live } []
  | loseStage (hh : s.handler = .testLive) (hs : s.state = .live) :
      WatchMoves allowed s .handler (s.report .takeover).1 [.failureReported .takeover]
  | passStage (hh : s.handler = .testLive) (hs : s.state ≠ .live) :
      WatchMoves allowed s .handler { s with handler := .idle } []
  | fail (error : Result) (he : error ≠ .takeover) :
      WatchMoves allowed s (.failure error) { s with failed := true } [.failureReported error]
  | state (st : State) (hs : allowed s.state st = true) :
      WatchMoves allowed s (.state st) { s with state := st } []

section

variable {allowed : State → State → Bool} {s s' : Watch} {a : WatchAction}
  {out : List WatchEvent}

/-- **Inversion of a step.** -/
theorem watchMoves_of_step (h : s.step allowed a = some (s', out)) :
    WatchMoves allowed s a s' out := by
  cases a with
  | message m =>
      apply holds_of_guard h
      intro hh
      rcases m with u | messages
      · exact .receive u hh
      · exact .refuse messages hh
  | handler =>
      rw [Watch.step] at h
      split at h
      case h_1 => cases h
      case h_2 live hh =>
        exact holds_of_ite h (fun hs => .loseFeed live hh hs)
          fun hs => .passFeed live hh (by simpa using hs)
      case h_3 hh => exact holds_of_ite h (fun hs => .loseStage hh hs) fun hs => .passStage hh hs
  | failure error => exact holds_of_guard h fun he => .fail error he
  | state st => exact holds_of_guard h fun hs => .state st hs

/-! ## The subscription state -/

theorem SubscriptionState.rank_le_next (st : SubscriptionState) (feedIsOnStage live : Bool) :
    st.rank ≤ (st.next feedIsOnStage live).rank := by
  cases st <;> cases feedIsOnStage <;> cases live <;> decide

@[simp] theorem SubscriptionState.next_ne_none (st : SubscriptionState)
    (feedIsOnStage live : Bool) : st.next feedIsOnStage live ≠ .none := by
  cases st <;> cases feedIsOnStage <;> cases live <;> decide

/-- An update with the feed makes it appear, and nothing makes it disappear. -/
theorem SubscriptionState.appeared_next (st : SubscriptionState) (feedIsOnStage live : Bool) :
    (st.next feedIsOnStage live).appeared = (feedIsOnStage || st.appeared) := by
  cases st <;> cases feedIsOnStage <;> cases live <;> decide

theorem SubscriptionState.next_eq_stageHasGoneLive_iff (st : SubscriptionState)
    (feedIsOnStage live : Bool) : st.next feedIsOnStage live = .stageHasGoneLive ↔
      feedIsOnStage = true ∧ live = true ∨ st = .stageHasGoneLive := by
  cases st <;> cases feedIsOnStage <;> cases live <;> decide

@[simp] theorem Watch.receive_subscriptionState (s : Watch) (u : StageUpdate) :
    (s.receive u).1.subscriptionState = s.subscriptionState.next (u.shows s.feedId) u.live := rfl

/-- Only an update moves the subscription state, and not back. -/
theorem WatchMoves.rank_le (h : WatchMoves allowed s a s' out) :
    s.subscriptionState.rank ≤ s'.subscriptionState.rank := by
  cases h with
  | receive u hh => exact s.subscriptionState.rank_le_next _ _
  | _ => exact le_rfl

theorem WatchMoves.feedId_eq (h : WatchMoves allowed s a s' out) : s'.feedId = s.feedId := by
  cases h <;> rfl

/-! ## What the handler remembers -/

theorem updatesOf_append (es es' : List WatchEvent) :
    updatesOf (es ++ es') = updatesOf es' ++ updatesOf es := by
  simp [updatesOf]

/-- A step other than an update leaves the updates received alone. -/
theorem WatchMoves.updatesOf_eq (h : WatchMoves allowed s a s' out) :
    updatesOf out = match a with
      | .message (.update u) => [u]
      | _ => [] := by
  cases h with
  | receive u hh =>
      by_cases hnone : s.subscriptionState = .none <;> simp [updatesOf, Watch.receive, hnone]
  | _ => rfl

/-- The subscription state, and how far the handler is, tell what has been received.
`us` are the updates, the latest first. -/
structure WatchInv (us : List StageUpdate) (s : Watch) : Prop where
  opened : s.subscriptionState = .none ↔ us = []
  appeared : s.subscriptionState.appeared = true ↔ ∃ u ∈ us, u.shows s.feedId = true
  wentLive : s.subscriptionState = .stageHasGoneLive ↔
    ∃ u ∈ us, u.shows s.feedId = true ∧ u.live = true
  /-- Before the test for the feed: the update lacks it, and an earlier one does not. -/
  testOnline : ∀ live, s.handler = .testOnline live → ∃ u earlier, us = u :: earlier ∧
    u.live = live ∧ u.shows s.feedId = false ∧ ∃ u' ∈ earlier, u'.shows s.feedId = true
  /-- Before the test for the stage: it is not live, and has been with the feed. -/
  testLive : s.handler = .testLive → ∃ u earlier, us = u :: earlier ∧ u.live = false ∧
    ∃ u' ∈ earlier, u'.shows s.feedId = true ∧ u'.live = true

theorem watchInv_init (feedId : String) : WatchInv [] { feedId } where
  opened := by simp
  appeared := by simp [SubscriptionState.appeared]
  wentLive := by simp
  testOnline _ h := by cases h
  testLive h := by cases h

/-- The handler gets to its second test with a stage that is not live and has been. -/
theorem afterFeed_eq_testLive {st : SubscriptionState} {live : Bool}
    (h : Watch.afterFeed st live = .testLive) : live = false ∧ st = .stageHasGoneLive := by
  unfold Watch.afterFeed at h
  split at h
  · rename_i hc
    simpa using hc
  · cases h

theorem afterFeed_ne_testOnline (st : SubscriptionState) (live live' : Bool) :
    Watch.afterFeed st live ≠ .testOnline live' := by
  unfold Watch.afterFeed
  split <;> simp

/-- An update. -/
theorem WatchInv.receive {us : List StageUpdate} (h : WatchInv us s) (u : StageUpdate) :
    WatchInv (u :: us) (s.receive u).1 := by
  have happeared : ∀ st live, Watch.afterFeed st live = .testLive →
      u.live = live → st = s.subscriptionState.next (u.shows s.feedId) u.live →
      ∃ u' ∈ us, u'.shows s.feedId = true ∧ u'.live = true := by
    -- this update is not live, so the stage went live with an earlier one
    rintro st live htest rfl rfl
    obtain ⟨hlive, hst⟩ := afterFeed_eq_testLive htest
    rw [hlive] at hst
    rcases (SubscriptionState.next_eq_stageHasGoneLive_iff _ _ _).mp hst with ⟨-, hl⟩ | hgone
    · cases hl
    · exact h.wentLive.mp hgone
  refine ⟨by simp, ?_, ?_, fun live htest => ?_, fun htest => ?_⟩
  · rw [Watch.receive_subscriptionState, SubscriptionState.appeared_next, Bool.or_eq_true,
      h.appeared]
    simp [Watch.receive]
  · rw [Watch.receive_subscriptionState, SubscriptionState.next_eq_stageHasGoneLive_iff,
      h.wentLive]
    simp [Watch.receive]
  · have htest : (if _ then _ else _ : HandlerStep) = .testOnline live := htest
    split at htest
    · rename_i hc
      obtain ⟨hshow, hap⟩ := hc
      have hshow : u.shows s.feedId = false := by simpa using hshow
      rw [SubscriptionState.appeared_next, hshow, Bool.false_or, h.appeared] at hap
      exact ⟨u, us, rfl, HandlerStep.testOnline.inj htest, hshow, hap⟩
    · exact absurd htest (afterFeed_ne_testOnline _ _ _)
  · have htest : (if _ then _ else _ : HandlerStep) = .testLive := htest
    split at htest
    · cases htest
    · exact ⟨u, us, rfl, (afterFeed_eq_testLive htest).1, happeared _ _ htest rfl rfl⟩

/-- **Step lemma.** -/
theorem WatchInv.moves {us : List StageUpdate} (h : WatchInv us s)
    (hmoves : WatchMoves allowed s a s' out) : WatchInv (updatesOf out ++ us) s' := by
  have hout := hmoves.updatesOf_eq
  cases hmoves with
  | receive u hh =>
      rw [hout]
      exact h.receive u
  | passFeed live hh hs =>
      refine ⟨h.opened, h.appeared, h.wentLive, fun live' htest => ?_, fun htest => ?_⟩
      · exact absurd htest (afterFeed_ne_testOnline _ _ _)
      · obtain ⟨u, earlier, hus, hlive, -⟩ := h.testOnline live hh
        obtain ⟨hl, hst⟩ := afterFeed_eq_testLive htest
        obtain ⟨u', hu', hshow, hlive'⟩ := h.wentLive.mp hst
        refine ⟨u, earlier, hus, hlive.trans hl, u', ?_, hshow, hlive'⟩
        rw [hus, List.mem_cons] at hu'
        exact hu'.resolve_left fun huu => by rw [huu, hlive, hl] at hlive'; cases hlive'
  | fail error he => exact ⟨h.opened, h.appeared, h.wentLive, h.testOnline, h.testLive⟩
  | state st hs => exact ⟨h.opened, h.appeared, h.wentLive, h.testOnline, h.testLive⟩
  | _ => exact ⟨h.opened, h.appeared, h.wentLive, fun _ h => (nomatch h), fun h => (nomatch h)⟩

/-! ## What the handler reports -/

/-- `subscriptionOpened` is set on an update that finds the subscription unopened. -/
theorem WatchMoves.of_opened (h : WatchMoves allowed s a s' out)
    (hmem : .subscriptionOpened ∈ out) :
    ∃ u, s.subscriptionState = .none ∧ out = [.received (.update u), .subscriptionOpened] := by
  cases h with
  | receive u hh =>
      by_cases hnone : s.subscriptionState = .none
      · exact ⟨u, hnone, by simp [Watch.receive, hnone]⟩
      · simp [Watch.receive, hnone] at hmem
  | fail error he => simp at hmem
  | _ => simp at hmem

/-- A takeover is reported in a step of its own, on the way back to `idle`. -/
theorem WatchMoves.of_takeover (h : WatchMoves allowed s a s' out)
    (hmem : .failureReported .takeover ∈ out) :
    out = [.failureReported .takeover] ∧ s'.handler = .idle ∧
      ((∃ live, s.handler = .testOnline live) ∧ s.state.isOnline = true ∨
        s.handler = .testLive ∧ s.state = .live) := by
  cases h with
  | loseFeed live hh hs => exact ⟨rfl, rfl, .inl ⟨⟨live, hh⟩, hs⟩⟩
  | loseStage hh hs => exact ⟨rfl, rfl, .inr ⟨hh, hs⟩⟩
  | receive u hh =>
      by_cases hnone : s.subscriptionState = .none <;> simp [Watch.receive, hnone] at hmem
  | fail error he => simp [he.symm] at hmem
  | _ => simp at hmem

/-- Between updates the handler does not start again. -/
theorem WatchMoves.handler_of_idle (h : WatchMoves allowed s a s' out) (hh : s.handler = .idle)
    (hout : updatesOf out = []) : s'.handler = .idle := by
  have hupdates := h.updatesOf_eq
  cases h with
  | receive u hh' =>
      rw [hout] at hupdates
      cases hupdates
  | refuse messages hh' => rfl
  | fail error he => exact hh
  | state st hs => exact hh
  | loseFeed live hh' hs => rfl
  | loseStage hh' hs => rfl
  | passFeed live hh' hs => rw [hh] at hh'; cases hh'
  | passStage hh' hs => rfl

end

/-! ## Every run -/

/-- A run of the handler from the construction of the broadcast. -/
def WatchRuns (allowed : State → State → Bool) (feedId : String)
    (tr : List (Watch × WatchAction)) (es : List WatchEvent) (s : Watch) : Prop :=
  (watchMachine allowed).Run { feedId } tr es s

section

variable {allowed : State → State → Bool} {feedId : String} {tr : List (Watch × WatchAction)}
  {es : List WatchEvent} {s : Watch}

/-- **Run lemma.** -/
theorem WatchRuns.inv (h : WatchRuns allowed feedId tr es s) : WatchInv (updatesOf es) s := by
  refine Machine.Run.induction_on_trace (I := fun _ es s => WatchInv (updatesOf es) s)
    (watchInv_init feedId) ?_ h
  intro _ es s a s' out hinv hs
  rw [updatesOf_append]
  exact hinv.moves (watchMoves_of_step hs)

theorem WatchRuns.feedId_eq (h : WatchRuns allowed feedId tr es s) : s.feedId = feedId :=
  Machine.Run.invariant (I := fun s => s.feedId = feedId) rfl
    (fun _ _ _ _ hi hs => (watchMoves_of_step hs).feedId_eq.trans hi) h

/-- The subscription never goes back. -/
theorem rank_le_of_run {s' : Watch} {tr : List (Watch × WatchAction)} {es : List WatchEvent}
    (h : (watchMachine allowed).Run s tr es s') :
    s.subscriptionState.rank ≤ s'.subscriptionState.rank :=
  Machine.Run.invariant (I := fun s' => s.subscriptionState.rank ≤ s'.subscriptionState.rank)
    le_rfl (fun _ _ _ _ hi hs => hi.trans (watchMoves_of_step hs).rank_le) h

/-- `subscriptionOpened` is set once at most, and not before it is needed. -/
theorem WatchRuns.count_opened (h : WatchRuns allowed feedId tr es s) :
    es.count .subscriptionOpened = if s.subscriptionState = .none then 0 else 1 := by
  refine Machine.Run.induction_on_trace (I := fun _ es s => es.count .subscriptionOpened =
    if s.subscriptionState = .none then 0 else 1) rfl ?_ h
  intro _ es s a s' out ih hs
  have hmoves := watchMoves_of_step hs
  rw [List.count_append, ih]
  cases hmoves with
  | receive u hh =>
      by_cases hnone : s.subscriptionState = .none <;> simp [Watch.receive, hnone]
  | _ => exact Nat.add_zero _

/-- After a takeover the handler is idle until the next update. -/
theorem WatchRuns.idle_of_takeover (h : WatchRuns allowed feedId tr es s) :
    ∀ l₁ l₂, es = l₁ ++ .failureReported .takeover :: l₂ → updatesOf l₂ = [] →
      s.handler = .idle := by
  refine Machine.Run.induction_on_trace (I := fun _ es s =>
    ∀ l₁ l₂, es = l₁ ++ .failureReported .takeover :: l₂ → updatesOf l₂ = [] →
      s.handler = .idle) (fun l₁ l₂ hes => by simp at hes) ?_ h
  intro _ es s a s' out ih hs l₁ l₂ hes hnone
  have hmoves := watchMoves_of_step hs
  rcases List.append_eq_append_iff.mp hes with ⟨l, -, hout⟩ | ⟨l, hl, hout⟩
  · -- the takeover is reported in this step
    exact (hmoves.of_takeover (by rw [hout]; simp)).2.1
  · rcases l with _ | ⟨e, l⟩
    · rw [List.nil_append] at hout
      exact (hmoves.of_takeover (by rw [← hout]; simp)).2.1
    · rw [List.cons_append, List.cons.injEq] at hout
      obtain ⟨rfl, rfl⟩ := hout
      rw [updatesOf_append, List.append_eq_nil_iff] at hnone
      exact hmoves.handler_of_idle (ih l₁ l hl hnone.2) hnone.1

/-- **The subscription.**  Whatever messages come and however the state of the broadcast
changes: the subscription state never decreases; `subscriptionOpened` is set with the
first update and not again; no two takeovers are reported for one update, and one only if
either an earlier update had our feed, this one does not and the broadcast is online, or
an earlier one had it on a live stage, this one is not live and the broadcast is. -/
theorem subscription_of_messages (h : WatchRuns allowed feedId tr es s) :
    (∀ tr' es' s', (watchMachine allowed).Run s tr' es' s' →
      s.subscriptionState.rank ≤ s'.subscriptionState.rank) ∧
    (es.count .subscriptionOpened = if updatesOf es = [] then 0 else 1) ∧
    (∀ l₁ l₂, es = l₁ ++ .subscriptionOpened :: l₂ →
      ∃ l u, l₁ = l ++ [.received (.update u)] ∧ updatesOf l = []) ∧
    (∀ l₁ l₂ l₃, es = l₁ ++ .failureReported .takeover ::
      (l₂ ++ .failureReported .takeover :: l₃) → updatesOf l₂ ≠ []) ∧
    ∀ a s' out, (watchMachine allowed).step s a = some (s', out) →
      .failureReported .takeover ∈ out → ∃ u earlier, updatesOf es = u :: earlier ∧
        ((∃ u' ∈ earlier, u'.shows feedId = true) ∧ u.shows feedId = false ∧
            s.state.isOnline = true ∨
          (∃ u' ∈ earlier, u'.shows feedId = true ∧ u'.live = true) ∧ u.live = false ∧
            s.state = .live) := by
  refine ⟨fun _ _ _ hrun => rank_le_of_run hrun, ?_, ?_, ?_, ?_⟩
  · rw [h.count_opened]
    simp only [h.inv.opened]
  · intro l₁ l₂ hes
    obtain ⟨tr₁, tr₂, es', t, a, t', out₁, out₂, -, hrun, hs, hl⟩ := h.exists_step_of_output hes
    obtain ⟨u, hnone, hout⟩ := (watchMoves_of_step hs).of_opened (by simp)
    have hrun : WatchRuns allowed feedId tr₁ es' t := hrun
    refine ⟨es', u, ?_, hrun.inv.opened.mp hnone⟩
    rcases out₁ with _ | ⟨e, _ | ⟨e', out₁⟩⟩ <;> simp at hout
    rw [hl, hout.1]
  · intro l₁ l₂ l₃ hes hnone
    rw [← List.cons_append, ← List.append_assoc] at hes
    obtain ⟨tr₁, tr₂, es', t, a, t', out₁, out₂, -, hrun, hs, hl⟩ := h.exists_step_of_output hes
    obtain ⟨hout, -, hwhere⟩ := (watchMoves_of_step hs).of_takeover (by simp)
    have hrun : WatchRuns allowed feedId tr₁ es' t := hrun
    rcases out₁ with _ | ⟨e, out₁⟩
    · rw [List.append_nil] at hl
      have hidle := hrun.idle_of_takeover l₁ l₂ hl.symm hnone
      rw [hidle] at hwhere
      simp at hwhere
    · simp at hout
  · intro a s' out hs hmem
    rcases (watchMoves_of_step hs).of_takeover hmem with ⟨-, -, ⟨⟨live, hh⟩, hon⟩ | ⟨hh, hlive⟩⟩
    · obtain ⟨u, earlier, hus, -, hshow, hearlier⟩ := h.inv.testOnline live hh
      rw [h.feedId_eq] at hshow hearlier
      exact ⟨u, earlier, hus, .inl ⟨hearlier, hshow, hon⟩⟩
    · obtain ⟨u, earlier, hus, hl, hearlier⟩ := h.inv.testLive hh
      rw [h.feedId_eq] at hearlier
      exact ⟨u, earlier, hus, .inr ⟨hearlier, hl, hlive⟩⟩

end

/-- A broadcast whose stage is taken off the air while it is live. -/
def stageEndsActions : List WatchAction :=
  [.message (.update ⟨["feed"], true⟩), .state .live, .message (.update ⟨["feed"], false⟩),
    .handler]

theorem subscription_of_messages_stageEnds :
    ∃ tr es s, WatchRuns (fun _ _ => true) "feed" tr es s ∧ tr.map Prod.snd = stageEndsActions ∧
      es.count .subscriptionOpened = 1 ∧ .failureReported .takeover ∈ es ∧
      ∀ tr' es' s', (watchMachine fun _ _ => true).Run s tr' es' s' →
        s.subscriptionState.rank ≤ s'.subscriptionState.rank := by
  obtain ⟨s, es, hexec, hes⟩ : ∃ s es,
      (watchMachine fun _ _ => true).exec { feedId := "feed" } stageEndsActions = some (s, es) ∧
      es = [.received (.update ⟨["feed"], true⟩), .subscriptionOpened,
        .received (.update ⟨["feed"], false⟩), .failureReported .takeover] :=
    ⟨_, _, rfl, rfl⟩
  have hrun := Machine.Run.of_exec hexec
  have hall := subscription_of_messages hrun
  exact ⟨_, es, s, hrun, Machine.map_snd_trace hexec, by rw [hes]; rfl, by rw [hes]; simp, hall.1⟩

end Caff
