/-
# Lost game updates

`createFeed` reads the game long before the broadcast is online, and `setGameId`
sends it only to a broadcast that is online.  A game stored in between is read by no
one until the next feed update, and the feed updates of the heartbeat loop and those
of setters may overtake each other.  Where neither happens, the feed has the current
game whenever no one is busy with it.
-/
import Caffeine.Updates

namespace Caff

open Publication (Phase Stamped Step)

section

variable {s s' : World} {a : Action} {o : Outcome} {out : List Event}

theorem Stage.giveUp_feedRequest {p : Stage} {error : Result} {exit : Thread}
    (h : p.giveUp = some (error, exit)) : exit.feedRequest = none ∧ exit.openingFeed = false := by
  cases p <;> simp only [Stage.giveUp, Option.some.injEq, Prod.mk.injEq, reduceCtorEq] at h <;>
    rw [← h.2] <;> exact ⟨rfl, rfl⟩

/-- **Step lemma for the thread.** -/
theorem gameChannel_threadMoves (hok : gameChannel.Succeeds s (.thread o))
    (hmoves : ThreadMoves s o s' out) :
    Relation.ReflTransGen Step (gameChannel.view s) (gameChannel.view s') := by
  have hsame : s'.currentGame = s.currentGame → s'.gameOpened = s.gameOpened →
      s'.feedGame = s.feedGame → s.thread.feedRequest = none → s'.thread.feedRequest = none →
      Relation.ReflTransGen Step (gameChannel.view s) (gameChannel.view s') := by
    intro hgame hopened hfeed hold hnew
    rw [Channel.view_thread hmoves hgame hopened hfeed hold hnew]
  cases hmoves with
  -- `createFeed` opens the channel
  | sendFeed hs =>
      refine .single (Channel.open_thread (.sendFeed hs) rfl rfl rfl ?_ rfl rfl)
      show s.thread.feedRequest = none
      rw [hs]
      rfl
  | feedAdded x id url hs hserved =>
      have hrequest : gameChannel.request s.thread = some x := by rw [hs]; rfl
      exact .single (Channel.finish_thread (.feedAdded x id url hs hserved) rfl rfl rfl hrequest
        hserved rfl)
  | feedFailed x payload id error hs hpayload hid =>
      have hp : feedSucceeded payload = true := hok.thread x _ (by rw [hs]; rfl) rfl
      rw [hpayload] at hp
      cases hp
  -- the heartbeat loop publishes like a client that has not written
  | sendUpdate hs =>
      refine Channel.publish_thread (.sendUpdate hs) rfl rfl rfl ?_ rfl rfl
      show s.thread.feedRequest = none
      rw [hs]
      rfl
  | updateAnswered x hs hserved =>
      have hrequest : gameChannel.request s.thread = some x := by rw [hs]; rfl
      exact .single (Channel.finish_thread (.updateAnswered x hs hserved) rfl rfl rfl hrequest
        hserved rfl)
  | updateFailed x hs => cases hok.thread x _ (by rw [hs]; rfl) rfl
  | abort hs =>
      refine hsame rfl rfl rfl ?_ rfl
      rcases hr : s.thread.feedRequest with _ | x
      · rfl
      · cases hok.thread x _ hr rfl
  | advance p hs hok =>
      refine hsame ?_ ?_ ?_ (by rw [hs]; rfl) (by cases p <;> rfl) <;> cases p <;> rfl
  | giveUp o p error exit hs ho hg =>
      exact hsame rfl rfl rfl (by rw [hs]; rfl) (Stage.giveUp_feedRequest hg).1
  | _ => exact hsame rfl rfl rfl (by simp [*, Thread.feedRequest]) rfl

/-- **Step lemma for everything else.** -/
theorem gameChannel_updates (hordered : gameChannel.Ordered s a)
    (hok : gameChannel.Succeeds s a) (hcreated : s.startCall ≠ .returned → s.thread = .notCreated)
    (hupdates : Updates s a s') :
    gameChannel.view s' = gameChannel.view s ∨
      Step (gameChannel.view s) (gameChannel.view s') := by
  cases hupdates with
  | storeTitle a i title rating hi =>
      refine .inl (Channel.view_setCall_of_eq ?_)
      show Phase.idle = (s.calls i).feedPhase
      rw [hi]
      rfl
  | storeGame a i gameId hi =>
      refine .inr (Channel.write (v := if gameId.isEmpty then none else some gameId)
        ?_ rfl rfl rfl rfl rfl rfl rfl rfl)
      show (s.calls i).feedPhase = .idle
      rw [hi]
      rfl
  | call i o k hmoves =>
      have hsame : k.feedPhase = (s.calls i).feedPhase →
          gameChannel.view (s.setCall i k) = gameChannel.view s ∨
            Step (gameChannel.view s) (gameChannel.view (s.setCall i k)) :=
        fun hk => .inl (Channel.view_setCall_of_eq hk)
      cases hmoves with
      | dropTitle n hi hstate => exact hsame (by rw [hi]; rfl)
      | goPublishTitle n hi => exact hsame (by rw [hi]; rfl)
      | sendTitle hi => exact hsame (by rw [hi]; rfl)
      | titleAnswered x served hi ho => exact hsame (by rw [hi]; cases served <;> rfl)
      -- here the condition on the setters is used
      | dropGame n hi hstate =>
          refine .inr (hordered.drop (n := n) (by rw [hi]; rfl) rfl (decide_eq_false fun h => ?_))
          rw [World.isOnline_iff.mpr h] at hstate
          cases hstate
      | goPublishGame n hi => exact .inr (Channel.commit (n := n) (by rw [hi]; rfl) rfl)
      | sendGame hi => exact .inr (Channel.read (by rw [hi]; rfl) rfl)
      | feedAnswered x quality served hi ho =>
          exact .inr (hok.finish (x := x) (by rw [hi]; cases served <;> rfl) ho rfl)
  | serveTitle i x hi =>
      refine .inl (Channel.view_setCall_of_eq ?_)
      show Phase.idle = (s.calls i).feedPhase
      rw [hi]
      rfl
  | serveGame i x quality hi =>
      exact .inr (hordered.serve_call (x := x) (by rw [hi]; rfl) rfl rfl rfl rfl rfl rfl rfl rfl)
  | serveStart x hs hserved =>
      have hr : s.thread.feedRequest = none := by
        revert hs
        cases s.thread <;> simp [Thread.feedRequest, Thread.titleRequest]
      exact .inl (Channel.view_serveThread hr rfl rfl rfl rfl rfl rfl)
  | serveFeed x hs hserved =>
      exact .inr (hordered.serve_thread hs hserved rfl rfl rfl rfl rfl rfl rfl)
  | other a hsame hthread hcalls hstop =>
      exact Channel.view_other hsame.game hsame.gameOpened hsame.feedGame hcreated hthread
        hcalls hstop

/-- The feed is read before the broadcast is online. -/
theorem gameChannel_opened (hmoves : ThreadMoves s o s' out)
    (h : gameChannel.isOpen s.state = true ∨ gameChannel.opening s.thread = true →
      (gameChannel.opened s).isSome = true)
    (hopen : gameChannel.isOpen s'.state = true ∨ gameChannel.opening s'.thread = true) :
    (gameChannel.opened s').isSome = true := by
  have hkeep : s'.state = s.state → s'.gameOpened = s.gameOpened →
      (s'.thread.openingFeed = true → s.thread.openingFeed = true) →
      (gameChannel.opened s').isSome = true := by
    intro hstate hopened hthread
    show s'.gameOpened.isSome = true
    rw [hopened]
    rw [hstate] at hopen
    exact h (hopen.imp_right hthread)
  cases hmoves with
  | sendFeed hs => rfl
  | feedAdded x id url hs hserved => exact h (.inr (by rw [hs]; rfl))
  | goStreaming hs hstate => exact h (.inr (by rw [hs]; rfl))
  | goLive payload hs hstate => exact h (.inl (by rw [hstate]; rfl))
  | advance p hs hok =>
      refine hkeep ?_ ?_ ?_
      · cases p <;> rfl
      · cases p <;> rfl
      · rw [hs]
        cases p <;> exact fun h => h
  | giveUp o p error exit hs ho hg =>
      apply hkeep rfl rfl
      intro h
      rw [World.goto_thread, (Stage.giveUp_feedRequest hg).2] at h
      cases h
  | _ => exact hkeep rfl rfl fun h => nomatch h

theorem gameChannel_lawful : gameChannel.Lawful where
  fresh title rating gameId := ⟨rfl, rfl, fun j => by cases j <;> rfl⟩
  threadMoves := gameChannel_threadMoves
  updates := gameChannel_updates
  opened_threadMoves := gameChannel_opened
  opened_updates h := by
    cases h with
    | other a hsame hthread hcalls hstop => exact hsame.gameOpened
    | _ => rfl

variable {title gameId : Bytes} {rating : Rating} {tr : List (World × Action)} {es : List Event}

/-- **No lost game update.**  In every run in which every feed request succeeds and
every step meets the condition: when the broadcast is online and no setter and no feed
request is in progress, the feed has the current game. -/
theorem feedGame_of_quiet (h : Runs title rating gameId tr es s)
    (hordered : Machine.Meets gameChannel.Ordered tr)
    (hok : Machine.Meets gameChannel.Succeeds tr) (honline : s.isOnline = true)
    (hquiet : gameChannel.Quiet s) :
    s.feedGame.map Stamped.value = some (if s.gameId.isEmpty then none else some s.gameId) := by
  have hfeed : s.feedGame = some s.currentGame :=
    gameChannel_lawful.register_of_quiet h hordered hok
      (decide_eq_true (World.isOnline_iff.mp honline)) hquiet
  rw [hfeed]
  rfl

end

/-! ## A game set before and after the thread has read it -/

/-- The steps of a broadcast that goes online, with a game set once it is. -/
def onlineGameActions : List Action :=
  feedActions ++ List.replicate 6 (.thread .success) ++
    [.setGameId 1 [65], .call 1 .success, .call 1 .success, .serveCall 1, .call 1 .success]

/-- The steps of a broadcast that goes online, with a game set after its feed is added. -/
def lateGameActions : List Action :=
  feedActions ++ [.setGameId 1 [65], .call 1 .success] ++ List.replicate 6 (.thread .success)

/-- A game that is set while the broadcast is online gets to the feed. -/
theorem feedGame_of_quiet_online :
    ∃ tr es s, Runs [] .none [] tr es s ∧ tr.map Prod.snd = onlineGameActions ∧
      s.gameId = [65] ∧ s.feedGame.map Stamped.value = some (some [65]) := by
  obtain ⟨s, es, hexec, honline, hgame, hcalls, hthread⟩ : ∃ s es,
      broadcastMachine.exec (World.init [] .none []) onlineGameActions = some (s, es) ∧
      s.isOnline = true ∧ s.gameId = [65] ∧
      s.calls = Function.update (Function.update (Function.update (Function.update
        (Function.update (fun _ => .idle) 1 (.gameStored 1)) 1 .feedReading)
        1 (.feedSent ⟨some [65], 1⟩ .unknown false)) 1
        (.feedSent ⟨some [65], 1⟩ .unknown true)) 1 .idle ∧
      s.thread.feedRequest = none :=
    ⟨_, _, rfl, rfl, rfl, rfl, rfl⟩
  refine ⟨_, es, s, Machine.Run.of_exec hexec, Machine.map_snd_trace hexec, hgame, ?_⟩
  have hfeed := feedGame_of_quiet (Machine.Run.of_exec hexec)
    (gameChannel.meets_ordered (by decide)) (gameChannel.meets_succeeds (by decide)) honline
    ⟨hthread, fun i => ?_⟩
  · rwa [hgame] at hfeed
  · simp only [hcalls, Function.update_apply]
    split_ifs <;> rfl

/-- A game that is set between the read and the transition to `Streaming` is lost,
though every request succeeds. -/
theorem not_feedGame_of_quiet_late :
    ∃ tr es s, Runs [] .none [] tr es s ∧ tr.map Prod.snd = lateGameActions ∧
      Machine.Meets gameChannel.Succeeds tr ∧ s.isOnline = true ∧ gameChannel.Quiet s ∧
      s.gameId = [65] ∧ s.feedGame.map Stamped.value = some none := by
  obtain ⟨s, es, hexec, honline, hcalls, hthread, hfeed, hgame⟩ : ∃ s es,
      broadcastMachine.exec (World.init [] .none []) lateGameActions = some (s, es) ∧
      s.isOnline = true ∧
      s.calls = Function.update (Function.update (fun _ => .idle) 1 (.gameStored 1)) 1 .idle ∧
      s.thread.feedRequest = none ∧ s.feedGame = some ⟨none, 0⟩ ∧ s.gameId = [65] :=
    ⟨_, _, rfl, rfl, rfl, rfl, rfl, rfl⟩
  refine ⟨_, es, s, Machine.Run.of_exec hexec, Machine.map_snd_trace hexec,
    gameChannel.meets_succeeds (by decide), honline, ⟨hthread, fun i => ?_⟩, hgame, ?_⟩
  · simp only [hcalls, Function.update_apply]
    split_ifs <;> rfl
  · rw [hfeed]
    rfl

end Caff
