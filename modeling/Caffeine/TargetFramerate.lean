/-
# The target framerate

`SetRateAllocation` stores the framerate it switches to before `x264_encoder_reconfig`, and
does not take it back if that fails.  The next report at the same rate then finds nothing
to switch, and x264 keeps encoding at the old framerate.
-/
import Caffeine.EncodedBuffer

namespace Caff

/-- The call gets to `x264_encoder_reconfig`, and it fails. -/
def ReconfigFails (s : Encoder) (a : EncoderAction) : Prop :=
  ∃ allocation framerate, a = .setRateAllocation allocation framerate false ∧
    ¬ (allocation.sumBps = 0 ∨ framerate = 0) ∧ s.encoder.isSome = true ∧ s.frameCount ≠ 0 ∧
    (Encoder.nextFps s.targetFps framerate).isSome = true

/-- An open encoder is configured with the target framerate, which is one of two. -/
def FramerateAgrees (s : Encoder) : Prop :=
  ∀ params, s.encoder = some params →
    (s.targetFps = 30 ∨ s.targetFps = 60) ∧ params.iFpsNum = s.targetFps

/-- A call of `SetRateAllocation` that returns an error leaves the target framerate. -/
def ErrorKeepsFramerate (webrtc : WebrtcVideo) (s : Encoder) (a : EncoderAction) : Prop :=
  ∀ allocation framerate reconfigured s' out,
    a = .setRateAllocation allocation framerate reconfigured →
    (encoderMachine webrtc).step s a = some (s', out) →
    .returned .errParameter ∈ out → s'.targetFps = s.targetFps

section

variable {webrtc : WebrtcVideo} {s s' : Encoder} {a : EncoderAction}
  {out : List EncoderEvent}

/-- A switch is between the two framerates. -/
theorem nextFps_eq {targetFps framerate fps : ℕ}
    (h : Encoder.nextFps targetFps framerate = some fps) :
    targetFps = 30 ∧ fps = 60 ∨ targetFps = 60 ∧ fps = 30 := by
  unfold Encoder.nextFps at h
  split at h
  · left
    rename_i hc
    exact ⟨hc.2, (Option.some.inj h).symm⟩
  · split at h
    · right
      rename_i hc
      exact ⟨hc.2, (Option.some.inj h).symm⟩
    · cases h

/-- The target is one of the two framerates, whether the encoder is open or not. -/
theorem EncoderMoves.targetFps (h : s.targetFps = 30 ∨ s.targetFps = 60)
    (hmoves : EncoderMoves webrtc s a s' out) :
    s'.targetFps = 30 ∨ s'.targetFps = 60 := by
  cases hmoves with
  | switched allocation framerate params fps hopen hfps =>
      rcases nextFps_eq hfps with ⟨-, rfl⟩ | ⟨-, rfl⟩
      · right; rfl
      · left; rfl
  | switchFailed allocation framerate params fps hrates hopen hframe hfps =>
      rcases nextFps_eq hfps with ⟨-, rfl⟩ | ⟨-, rfl⟩
      · right; rfl
      · left; rfl
  | _ => exact h

/-- **Step lemma.**  A call in which no reconfiguration fails keeps the agreement. -/
theorem EncoderMoves.framerateAgrees (h : FramerateAgrees s)
    (htarget : s.targetFps = 30 ∨ s.targetFps = 60) (hok : ¬ ReconfigFails s a)
    (hmoves : EncoderMoves webrtc s a s' out) : FramerateAgrees s' := by
  have htarget' := hmoves.targetFps htarget
  intro params' hparams'
  cases hmoves with
  | opened settings n hok =>
      constructor
      · exact htarget
      · rw [← Option.some.inj hparams']
        rfl
  | switched allocation framerate params fps hopen hfps =>
      constructor
      · exact htarget'
      · rw [← Option.some.inj hparams']
  | switchFailed allocation framerate params fps hrates hopen hframe hfps =>
      exact absurd ⟨allocation, framerate, rfl, hrates, by rw [hopen]; rfl, hframe,
        by rw [hfps]; rfl⟩ hok
  | released => cases hparams'
  | initFailed settings n o hok => cases hparams'
  | openFailed settings n hok => cases hparams'
  | encodeFailed frame frameTypes forceKeyFrame hopen hcallback htypes hout => cases hparams'
  | _ => exact h params' hparams'

/-- A call in which no reconfiguration fails returns an error only for its arguments. -/
theorem errorKeepsFramerate_of_ok (hok : ¬ ReconfigFails s a) :
    ErrorKeepsFramerate webrtc s a := by
  rintro allocation framerate reconfigured s' out rfl hs herror
  have hmoves := encoderMoves_of_step hs
  cases hmoves with
  | refused a status => rfl
  | ratesStored allocation framerate reconfigured => rfl
  | switched allocation framerate params fps hopen hfps => simp at herror
  | switchFailed allocation framerate params fps hrates hopen hframe hfps =>
      exact absurd ⟨allocation, framerate, rfl, hrates, by rw [hopen]; rfl, hframe,
        by rw [hfps]; rfl⟩ hok

/-- A reconfiguration that fails returns an error, and moves the target and not the
parameters of the encoder. -/
theorem step_of_reconfigFails (webrtc : WebrtcVideo) (h : ReconfigFails s a) :
    ∃ s', (encoderMachine webrtc).step s a =
        some (s', [.parameters true, .returned .errParameter]) ∧
      s'.encoder = s.encoder ∧ s'.targetFps ≠ s.targetFps := by
  obtain ⟨allocation, framerate, rfl, hrates, hopen, hframe, hsome⟩ := h
  obtain ⟨params, hparams⟩ := Option.isSome_iff_exists.mp hopen
  obtain ⟨fps, hfps⟩ := Option.isSome_iff_exists.mp hsome
  refine ⟨{ s with targetKbps := allocation.sumKbps, targetFps := fps }, ?_, rfl, ?_⟩
  · show some (s.setRateAllocation allocation framerate false) = _
    unfold Encoder.setRateAllocation
    rw [if_neg hrates]
    simp only [hparams, hframe, hfps, if_false, Bool.false_eq_true]
  · rcases nextFps_eq hfps with ⟨htarget, rfl⟩ | ⟨htarget, rfl⟩
    · show 60 ≠ s.targetFps
      omega
    · show 30 ≠ s.targetFps
      omega

end

section

variable {webrtc : WebrtcVideo} {mode : PacketizationMode}
  {tr : List (Encoder × EncoderAction)} {es : List EncoderEvent} {s : Encoder}

/-- **Run lemma**, for every state of the run. -/
theorem EncoderRuns.framerateAgrees (h : EncoderRuns webrtc mode tr es s)
    (hok : Machine.Meets (fun s a => ¬ ReconfigFails s a) tr) :
    Machine.Meets (fun s _ => FramerateAgrees s ∧ (s.targetFps = 30 ∨ s.targetFps = 60)) tr ∧
      FramerateAgrees s ∧ (s.targetFps = 30 ∨ s.targetFps = 60) := by
  refine Machine.Run.meets_of_invariant
    (I := fun s => FramerateAgrees s ∧ (s.targetFps = 30 ∨ s.targetFps = 60)) ?_ ?_ h hok
  · constructor
    · intro params hparams
      cases hparams
    · left
      rfl
  · rintro s a s' out ⟨hagrees, htarget⟩ hstep hs
    have hmoves := encoderMoves_of_step hs
    constructor
    · exact hmoves.framerateAgrees hagrees htarget hstep
    · exact hmoves.targetFps htarget

/-- **The target framerate.**  In every state of a run an open encoder is configured with
the target framerate, 30 or 60, and every call of `SetRateAllocation` that returns an error
leaves it, exactly if no reconfiguration fails. -/
theorem framerateAgrees_iff (h : EncoderRuns webrtc mode tr es s) :
    (Machine.Meets (fun s a => FramerateAgrees s ∧ ErrorKeepsFramerate webrtc s a) tr ∧
      FramerateAgrees s) ↔
    Machine.Meets (fun s a => ¬ ReconfigFails s a) tr := by
  constructor
  · rintro ⟨hmeets, hlast⟩
    induction h with
    | refl => exact Machine.meets_nil _
    | @snoc t t' tr es out a hrun hs ih =>
        obtain ⟨hmeets, hagrees, herror⟩ := Machine.meets_snoc.mp hmeets
        rw [Machine.meets_snoc]
        constructor
        · exact ih hmeets hagrees
        · -- the two states around a failure do not both agree with the same parameters
          intro hfails
          obtain ⟨t'', hs', hencoder, htarget⟩ := step_of_reconfigFails webrtc hfails
          rw [hs, Option.some.injEq, Prod.mk.injEq] at hs'
          obtain ⟨rfl, -⟩ := hs'
          obtain ⟨-, -, -, -, hopen, -⟩ := hfails
          obtain ⟨params, hparams⟩ := Option.isSome_iff_exists.mp hopen
          have hbefore := (hagrees params hparams).2
          have hafter := (hlast params (by rw [hencoder, hparams])).2
          rw [hbefore] at hafter
          exact htarget hafter.symm
  · intro hok
    obtain ⟨hall, hagrees, -⟩ := h.framerateAgrees hok
    constructor
    · intro p hp
      exact ⟨(hall p hp).1, errorKeepsFramerate_of_ok (hok p hp)⟩
    · exact hagrees

end

/-! ## A reconfiguration that fails -/

/-- An encoder that has encoded a frame at 30 fps, and reports at 60 of which none gets
x264 to switch. -/
def reconfigFailedActions : List EncoderAction :=
  openActions ++
    [.encode ⟨1920, 1080⟩ none (some twoNals),
      .setRateAllocation ⟨2500000, 2500⟩ 60 false]

/-- With a reconfiguration that succeeds the target agrees in every state. -/
theorem framerateAgrees_iff_switched :
    ∃ tr es s, EncoderRuns i420Webrtc .singleNalUnit tr es s ∧
      tr.map Prod.snd = openActions ++
        [.encode ⟨1920, 1080⟩ none (some twoNals),
          .setRateAllocation ⟨2500000, 2500⟩ 60 true] ∧
      s.targetFps = 60 ∧
      ((Machine.Meets (fun s a => FramerateAgrees s ∧
          ErrorKeepsFramerate i420Webrtc s a) tr ∧ FramerateAgrees s) ↔
        Machine.Meets (fun s a => ¬ ReconfigFails s a) tr) := by
  obtain ⟨tr, es, s, hrun, htr, htarget⟩ :=
    exists_encoderRuns_of_exec i420Webrtc (P := fun s _ => s.targetFps = 60)
      (l := openActions ++
        [.encode ⟨1920, 1080⟩ none (some twoNals),
          .setRateAllocation ⟨2500000, 2500⟩ 60 true]) ⟨_, _, rfl, rfl⟩
  exact ⟨tr, es, s, hrun, htr, htarget, framerateAgrees_iff hrun⟩

/-- The failed switch leaves an encoder configured with 30 fps and a target of 60, and the
next report at that rate is answered without another try. -/
theorem not_framerateAgrees_reconfigFailed :
    ∃ tr es s, EncoderRuns i420Webrtc .singleNalUnit tr es s ∧
      tr.map Prod.snd = reconfigFailedActions ∧ .returned .errParameter ∈ es ∧
      s.targetFps = 60 ∧ s.encoder.map (·.iFpsNum) = some 30 ∧ ¬ FramerateAgrees s ∧
      ∀ reconfigured, ∃ s', (encoderMachine i420Webrtc).step s
        (.setRateAllocation ⟨2500000, 2500⟩ 60 reconfigured) = some (s', [.returned .ok]) := by
  obtain ⟨tr, es, s, hrun, htr, herror, htarget, hfps, hnext⟩ :=
    exists_encoderRuns_of_exec i420Webrtc (l := reconfigFailedActions)
      (P := fun s es => .returned .errParameter ∈ es ∧ s.targetFps = 60 ∧
        s.encoder.map (·.iFpsNum) = some 30 ∧
        ∀ reconfigured, ∃ s', (encoderMachine i420Webrtc).step s
          (.setRateAllocation ⟨2500000, 2500⟩ 60 reconfigured) = some (s', [.returned .ok]))
      ⟨_, _, rfl, by decide, rfl, rfl, fun _ => ⟨_, rfl⟩⟩
  refine ⟨tr, es, s, hrun, htr, herror, htarget, hfps, ?_, hnext⟩
  intro hagrees
  obtain ⟨params, hparams, hnum⟩ := Option.map_eq_some_iff.mp hfps
  have := (hagrees params hparams).2
  omega

end Caff
