/-
# Lost title updates

A setter tests the state only after it has stored the title, and the thread reads the
title for `StartBroadcast` before it moves to `State::Live`.  A title stored in
between is read by no one.  And two title requests may overtake each other.  Where
neither happens, the stage has the current title whenever no one is busy with it.
-/
import Caffeine.Updates

namespace Caff

open Publication (Phase Stamped Step)

section

variable {s s' : World} {a : Action} {o : Outcome} {out : List Event}

theorem Stage.giveUp_titleRequest {p : Stage} {error : Result} {exit : Thread}
    (h : p.giveUp = some (error, exit)) : exit.titleRequest = none ∧ exit.openingTitle = false := by
  cases p <;> simp only [Stage.giveUp, Option.some.injEq, Prod.mk.injEq, reduceCtorEq] at h <;>
    rw [← h.2] <;> exact ⟨rfl, rfl⟩

/-- **Step lemma for the thread.** -/
theorem titleChannel_threadMoves (hok : titleChannel.Succeeds s (.thread o))
    (hmoves : ThreadMoves s o s' out) :
    Relation.ReflTransGen Step (titleChannel.view s) (titleChannel.view s') := by
  have hsame : s'.fullTitle = s.fullTitle → s'.titleOpened = s.titleOpened →
      s'.stageTitle = s.stageTitle → s.thread.titleRequest = none →
      s'.thread.titleRequest = none →
      Relation.ReflTransGen Step (titleChannel.view s) (titleChannel.view s') := by
    intro htitle hopened hstage hold hnew
    rw [Channel.view_thread hmoves htitle hopened hstage hold hnew]
  cases hmoves with
  -- `StartBroadcast` opens the channel
  | sendTitle hs =>
      refine .single (Channel.open_thread (.sendTitle hs) rfl rfl rfl ?_ rfl rfl)
      show s.thread.titleRequest = none
      rw [hs]
      rfl
  | startAnswered x payload hs hserved =>
      have hrequest : titleChannel.request s.thread = some x := by rw [hs]; rfl
      have hp : startSucceeded payload = true := hok.thread x _ hrequest rfl
      refine .single (Channel.finish_thread (.startAnswered x payload hs hserved) rfl rfl rfl
        hrequest (hserved ?_) rfl)
      rw [startSucceeded, decide_eq_true_eq] at hp
      rw [hp]
      rfl
  | abort hs =>
      refine hsame rfl rfl rfl ?_ rfl
      rcases hr : s.thread.titleRequest with _ | x
      · rfl
      · cases hok.thread x _ hr rfl
  | advance p hs hok =>
      refine hsame ?_ ?_ ?_ (by rw [hs]; rfl) (by cases p <;> rfl) <;> cases p <;> rfl
  | giveUp o p error exit hs ho hg =>
      exact hsame rfl rfl rfl (by rw [hs]; rfl) (Stage.giveUp_titleRequest hg).1
  | _ => exact hsame rfl rfl rfl (by simp [*, Thread.titleRequest]) rfl

/-- **Step lemma for everything else.** -/
theorem titleChannel_updates (hordered : titleChannel.Ordered s a)
    (hok : titleChannel.Succeeds s a) (hcreated : s.startCall ≠ .returned → s.thread = .notCreated)
    (hupdates : Updates s a s') :
    titleChannel.view s' = titleChannel.view s ∨
      Step (titleChannel.view s) (titleChannel.view s') := by
  cases hupdates with
  | storeTitle a i title rating hi =>
      refine .inr (Channel.write (v := annotateTitle title rating)
        ?_ rfl rfl rfl rfl rfl rfl rfl rfl)
      show (s.calls i).titlePhase = .idle
      rw [hi]
      rfl
  | storeGame a i gameId hi =>
      refine .inl (Channel.view_setCall_of_eq ?_)
      show Phase.idle = (s.calls i).titlePhase
      rw [hi]
      rfl
  | call i o k hmoves =>
      have hsame : k.titlePhase = (s.calls i).titlePhase →
          titleChannel.view (s.setCall i k) = titleChannel.view s ∨
            Step (titleChannel.view s) (titleChannel.view (s.setCall i k)) :=
        fun hk => .inl (Channel.view_setCall_of_eq hk)
      cases hmoves with
      -- here the condition on the setters is used
      | dropTitle n hi hstate =>
          exact .inr (hordered.drop (n := n) (by rw [hi]; rfl) rfl (decide_eq_false hstate))
      | goPublishTitle n hi => exact .inr (Channel.commit (n := n) (by rw [hi]; rfl) rfl)
      | sendTitle hi => exact .inr (Channel.read (by rw [hi]; rfl) rfl)
      | titleAnswered x served hi ho =>
          exact .inr (hok.finish (x := x) (by rw [hi]; cases served <;> rfl) ho rfl)
      | dropGame n hi hstate => exact hsame (by rw [hi]; rfl)
      | goPublishGame n hi => exact hsame (by rw [hi]; rfl)
      | sendGame hi => exact hsame (by rw [hi]; rfl)
      | feedAnswered x quality served hi ho => exact hsame (by rw [hi]; cases served <;> rfl)
  | serveTitle i x hi =>
      exact .inr (hordered.serve_call (x := x) (by rw [hi]; rfl) rfl rfl rfl rfl rfl rfl rfl rfl)
  | serveGame i x quality hi =>
      refine .inl (Channel.view_setCall_of_eq ?_)
      show Phase.idle = (s.calls i).titlePhase
      rw [hi]
      rfl
  | serveStart x hs hserved =>
      exact .inr (hordered.serve_thread hs hserved rfl rfl rfl rfl rfl rfl rfl)
  | serveFeed x hs hserved =>
      have hr : s.thread.titleRequest = none := by
        revert hs
        cases s.thread <;> simp [Thread.feedRequest, Thread.titleRequest]
      exact .inl (Channel.view_serveThread hr rfl rfl rfl rfl rfl rfl)
  | other a hsame hthread hcalls hstop =>
      exact Channel.view_other hsame.title hsame.titleOpened hsame.stageTitle hcreated hthread
        hcalls hstop

theorem titleChannel_opened (hmoves : ThreadMoves s o s' out)
    (h : titleChannel.isOpen s.state = true ∨ titleChannel.opening s.thread = true →
      (titleChannel.opened s).isSome = true)
    (hopen : titleChannel.isOpen s'.state = true ∨ titleChannel.opening s'.thread = true) :
    (titleChannel.opened s').isSome = true := by
  have hkeep : s'.state = s.state → s'.titleOpened = s.titleOpened →
      s'.thread.openingTitle = false → (titleChannel.opened s').isSome = true := by
    intro hstate hopened hnew
    have hlive : titleChannel.isOpen s'.state = true :=
      hopen.resolve_right fun h => Bool.false_ne_true (hnew.symm.trans h)
    rw [hstate] at hlive
    show s'.titleOpened.isSome = true
    rw [hopened]
    exact h (.inl hlive)
  cases hmoves with
  | sendTitle hs => rfl
  | startAnswered x payload hs hserved => exact h (.inr (by rw [hs]; rfl))
  | goLive payload hs hstate => exact h (.inr (by rw [hs]; rfl))
  | goStreaming hs hstate => exact absurd hopen (by rintro (h | h) <;> cases h)
  | advance p hs hok =>
      refine hkeep ?_ ?_ ?_ <;> cases p <;> rfl
  | giveUp o p error exit hs ho hg => exact hkeep rfl rfl (Stage.giveUp_titleRequest hg).2
  | _ => exact hkeep rfl rfl rfl

theorem titleChannel_lawful : titleChannel.Lawful where
  fresh title rating gameId := ⟨rfl, rfl, fun j => by cases j <;> rfl⟩
  threadMoves := titleChannel_threadMoves
  updates := titleChannel_updates
  opened_threadMoves := titleChannel_opened
  opened_updates h := by
    cases h with
    | other a hsame hthread hcalls hstop => exact hsame.titleOpened
    | _ => rfl

variable {title gameId : Bytes} {rating : Rating} {tr : List (World × Action)} {es : List Event}

/-- **No lost title update.**  In every run in which every title request succeeds and
every step meets the condition: when the broadcast is live and no setter and no title
request is in progress, the stage has the annotated current title. -/
theorem stageTitle_of_quiet (h : Runs title rating gameId tr es s)
    (hordered : Machine.Meets titleChannel.Ordered tr)
    (hok : Machine.Meets titleChannel.Succeeds tr) (hlive : s.state = .live)
    (hquiet : titleChannel.Quiet s) :
    s.stageTitle.map Stamped.value = some (annotateTitle s.title s.rating) := by
  have hstage : s.stageTitle = some s.fullTitle :=
    titleChannel_lawful.register_of_quiet h hordered hok (decide_eq_true hlive) hquiet
  rw [hstage]
  rfl

end

/-! ## A title set before and after the thread has read it -/

/-- The steps of a broadcast that goes live, with a title set while it is starting. -/
def earlyTitleActions : List Action :=
  feedActions ++ [.setTitle 1 [65], .call 1 .success] ++ readyActions ++
    [.serveThread, .thread (.start (some { hasError := false, live := true })), .thread .success]

/-- The steps of a broadcast that goes live, with a title set just before. -/
def lateTitleActions : List Action :=
  startActions (some { hasError := false, live := true }) ++
    [.setTitle 1 [65], .call 1 .success, .thread .success]

/-- A title that is set before the thread reads it gets to the stage. -/
theorem stageTitle_of_quiet_early :
    ∃ tr es s, Runs [] .none [] tr es s ∧ tr.map Prod.snd = earlyTitleActions ∧ s.title = [65] ∧
      s.stageTitle.map Stamped.value = some (annotateTitle s.title s.rating) := by
  obtain ⟨s, es, hexec, hlive, htitle, hcalls, hthread⟩ : ∃ s es,
      broadcastMachine.exec (World.init [] .none []) earlyTitleActions = some (s, es) ∧
      s.state = .live ∧ s.title = [65] ∧
      s.calls = Function.update (Function.update (Function.update (Function.update
        (fun _ => .idle) 1 (.titleStored 1)) 1 .idle) 0 .sendingVideo) 0 .idle ∧
      s.thread.titleRequest = none :=
    ⟨_, _, rfl, rfl, rfl, rfl, rfl⟩
  refine ⟨_, es, s, Machine.Run.of_exec hexec, Machine.map_snd_trace hexec, htitle, ?_⟩
  refine stageTitle_of_quiet (Machine.Run.of_exec hexec) (titleChannel.meets_ordered ?_)
    (titleChannel.meets_succeeds ?_) hlive ⟨hthread, fun i => ?_⟩
  · decide
  · decide
  · simp only [hcalls, Function.update_apply]
    split_ifs <;> rfl

/-- A title that is set between the read and the transition to `Live` is lost, though
every request succeeds. -/
theorem not_stageTitle_of_quiet_late :
    ∃ tr es s, Runs [] .none [] tr es s ∧ tr.map Prod.snd = lateTitleActions ∧
      Machine.Meets titleChannel.Succeeds tr ∧ s.state = .live ∧ titleChannel.Quiet s ∧
      s.stageTitle.map Stamped.value ≠ some (annotateTitle s.title s.rating) := by
  obtain ⟨s, es, hexec, hlive, hcalls, hthread, hstage, htitle, hrating⟩ : ∃ s es,
      broadcastMachine.exec (World.init [] .none []) lateTitleActions = some (s, es) ∧
      s.state = .live ∧
      s.calls = Function.update (Function.update (Function.update (Function.update
        (fun _ => .idle) 0 .sendingVideo) 0 .idle) 1 (.titleStored 1)) 1 .idle ∧
      s.thread.titleRequest = none ∧
      s.stageTitle = some ⟨annotateTitle [] .none, 0⟩ ∧ s.title = [65] ∧ s.rating = .none :=
    ⟨_, _, rfl, rfl, rfl, rfl, rfl, rfl, rfl⟩
  refine ⟨_, es, s, Machine.Run.of_exec hexec, Machine.map_snd_trace hexec,
    titleChannel.meets_succeeds (by decide), hlive,
    ⟨hthread, fun i => ?_⟩, ?_⟩
  · simp only [hcalls, Function.update_apply]
    split_ifs <;> rfl
  · rw [hstage, htitle, hrating]
    decide

end Caff
