/-
# The frame rate limiter

The limiter of `sendVideo` thins the timestamps it is given: a frame passes if it comes at
least the frame interval after the one that passed before it.  What it compares the first
frame with is the least number of seconds, which has no count of microseconds in 64 bits.
-/
import Caffeine.Library.Machine
import Caffeine.Library.Thinning
import Caffeine.FrameSizes

namespace Caff

open MachineInt Thinning

/-! ## Sequences of frames -/

/-- The limiter alone, for one timestamp after another: the timestamps that pass. -/
def VideoCapturer.limitAll (c : VideoCapturer) : List ℤ → Option (VideoCapturer × List ℤ)
  | [] => some (c, [])
  | t :: ts => do
      let (c, passes) ← c.limit t
      let (c, rest) ← c.limitAll ts
      pure (c, if passes then t :: rest else rest)

/-- A capturer that is sent frames. -/
def capturerMachine : Machine VideoCapturer (CapturedFrame × CaptureAnswers) (ℤ × SentVideo) where
  step c a := (c.sendVideo a.1 a.2).map fun r => (r.1, [(a.1.timestamp, r.2)])

/-- The timestamps of the frames of a run. -/
def timestamps (tr : List (VideoCapturer × CapturedFrame × CaptureAnswers)) : List ℤ :=
  tr.map fun p => p.2.1.timestamp

/-- The timestamps of the frames that got past the limiter. -/
def passedTimestamps (es : List (ℤ × SentVideo)) : List ℤ :=
  (es.filter fun e => e.2.passed).map Prod.fst

/-- The interval for a framerate limit. -/
def frameInterval (framerate : ℤ) : ℤ := 1000000 / (framerate + 2)

section

variable {c c' : VideoCapturer} {t : ℤ}

/-! ## One frame -/

theorem limit_of_le (hfits : Fits 64 (t - c.lastTimestamp))
    (hspan : c.interFrameLimit ≤ t - c.lastTimestamp) :
    c.limit t = some ({ c with lastTimestamp := t }, true) :=
  limit_eq_some_iff.mpr ⟨hfits, Or.inr ⟨hspan, rfl, rfl⟩⟩

/-- A frame that comes too soon changes nothing. -/
theorem limit_of_lt (hfits : Fits 64 (t - c.lastTimestamp))
    (hspan : ¬ c.interFrameLimit ≤ t - c.lastTimestamp) : c.limit t = some (c, false) :=
  limit_eq_some_iff.mpr ⟨hfits, Or.inl ⟨lt_of_not_ge hspan, rfl, rfl⟩⟩

/-- The limiter only asks for a representable span. -/
theorem fits_of_limit {passes : Bool} (h : c.limit t = some (c', passes)) :
    Fits 64 (t - c.lastTimestamp) := (limit_eq_some_iff.mp h).1

/-! ## Sequences -/

/-- **The limiter thins**, where all spans are representable. -/
theorem limitAll_eq (c : VideoCapturer) (ts : List ℤ)
    (hfits : ∀ t ∈ ts, ∀ u ∈ c.lastTimestamp :: ts, Fits 64 (t - u)) :
    c.limitAll ts =
      some ({ c with lastTimestamp := lastKept c.interFrameLimit c.lastTimestamp ts },
        thin c.interFrameLimit c.lastTimestamp ts) := by
  induction ts generalizing c with
  | nil => rfl
  | cons t ts ih =>
      have hfirst := hfits t List.mem_cons_self _ List.mem_cons_self
      unfold VideoCapturer.limitAll
      by_cases hspan : c.interFrameLimit ≤ t - c.lastTimestamp
      · have hrest := ih { c with lastTimestamp := t } (by
          intro u hu v hv
          exact hfits u (List.mem_cons_of_mem t hu) v (List.mem_cons_of_mem _ hv))
        rw [limit_of_le hfirst hspan, lastKept_cons_of_le hspan, thin_cons_of_le hspan,
          Option.bind_eq_bind, Option.bind_some]
        dsimp only
        rw [hrest]
        rfl
      · have hrest := ih c (by
          intro u hu v hv
          apply hfits u (List.mem_cons_of_mem t hu) v
          rcases List.mem_cons.mp hv with rfl | hv
          · exact List.mem_cons_self
          · exact List.mem_cons_of_mem _ (List.mem_cons_of_mem t hv))
        rw [limit_of_lt hfirst hspan, lastKept_cons_of_lt hspan, thin_cons_of_lt hspan,
          Option.bind_eq_bind, Option.bind_some]
        dsimp only
        rw [hrest]
        rfl

/-- **Step lemma.**  A call of `sendVideo` goes on with the thinning. -/
theorem thins_of_step {a : CapturedFrame × CaptureAnswers} {out : List (ℤ × SentVideo)}
    (h : capturerMachine.step c a = some (c', out)) :
    c' = { c with
        lastTimestamp := lastKept c.interFrameLimit c.lastTimestamp [a.1.timestamp] } ∧
      passedTimestamps out = thin c.interFrameLimit c.lastTimestamp [a.1.timestamp] := by
  obtain ⟨⟨d, outcome⟩, hsend, hr⟩ := Option.map_eq_some_iff.mp h
  obtain ⟨rfl, rfl⟩ := Prod.mk.inj hr
  have hlimit := limit_of_sendVideo hsend
  have hfits := fits_of_limit hlimit
  unfold passedTimestamps
  by_cases hspan : c.interFrameLimit ≤ a.1.timestamp - c.lastTimestamp
  · rw [limit_of_le hfits hspan] at hlimit
    obtain ⟨hd, hpassed⟩ := Prod.mk.inj (Option.some.inj hlimit)
    rw [lastKept_cons_of_le hspan, thin_cons_of_le hspan]
    constructor
    · exact hd.symm
    · simp [← hpassed, thin]
  · rw [limit_of_lt hfits hspan] at hlimit
    obtain ⟨hd, hpassed⟩ := Prod.mk.inj (Option.some.inj hlimit)
    rw [lastKept_cons_of_lt hspan, thin_cons_of_lt hspan]
    constructor
    · exact hd.symm
    · simp [← hpassed, thin]

theorem passedTimestamps_append (es es' : List (ℤ × SentVideo)) :
    passedTimestamps (es ++ es') = passedTimestamps es ++ passedTimestamps es' := by
  unfold passedTimestamps
  rw [List.filter_append, List.map_append]

/-- **Run lemma.**  The frames that pass in a run of the capturer are the thinned ones. -/
theorem thins_of_run {tr : List (VideoCapturer × CapturedFrame × CaptureAnswers)}
    {es : List (ℤ × SentVideo)} (hrun : capturerMachine.Run c tr es c') :
    c' = { c with
        lastTimestamp := lastKept c.interFrameLimit c.lastTimestamp (timestamps tr) } ∧
      passedTimestamps es = thin c.interFrameLimit c.lastTimestamp (timestamps tr) := by
  induction hrun with
  | refl => exact ⟨rfl, rfl⟩
  | @snoc d e tr es out a _ hs ih =>
      obtain ⟨hd, hes⟩ := ih
      obtain ⟨he, hout⟩ := thins_of_step hs
      have hts : timestamps (tr ++ [(d, a)]) = timestamps tr ++ [a.1.timestamp] := by
        unfold timestamps
        rw [List.map_append]
        rfl
      rw [hts, lastKept_append, thin_append, passedTimestamps_append, hes, hout, he, hd]
      exact ⟨rfl, rfl⟩

/-- No span between the frame that passed last and the frames, or among these, overflows, and
none of the sizes does. -/
structure Representable (c : VideoCapturer) (calls : List (CapturedFrame × CaptureAnswers)) :
    Prop where
  span : ∀ a ∈ calls, ∀ u ∈ c.lastTimestamp :: calls.map fun b => b.1.timestamp,
    Fits 64 (a.1.timestamp - u)
  size : ∀ a ∈ calls, c.SizeComputed a.1 a.2

/-- **All calls return** where nothing overflows. -/
theorem exists_run_of_representable {calls : List (CapturedFrame × CaptureAnswers)}
    (h : Representable c calls) :
    ∃ tr es c', capturerMachine.Run c tr es c' ∧ tr.map Prod.snd = calls := by
  induction calls using List.reverseRecOn with
  | nil => exact ⟨[], [], c, .refl c, rfl⟩
  | append_singleton calls a ih =>
      have hmem : ∀ {b}, b ∈ calls → b ∈ calls ++ [a] := List.mem_append_left [a]
      have hprefix : Representable c calls := by
        constructor
        · intro b hb u hu
          apply h.span b (hmem hb) u
          rw [List.map_append]
          exact List.mem_append_left _ hu
        · intro b hb
          exact h.size b (hmem hb)
      obtain ⟨tr, es, d, hrun, htr⟩ := ih hprefix
      obtain ⟨hd, -⟩ := thins_of_run hrun
      have hlast := List.mem_append_right calls (List.mem_singleton_self a)
      have htimestamps : timestamps tr = calls.map fun b => b.1.timestamp := by
        rw [← htr, List.map_map]
        rfl
      -- the frame that passed last is one of those before, or the one before all of them
      have hfits : Fits 64 (a.1.timestamp - d.lastTimestamp) := by
        apply h.span a hlast
        rw [hd, htimestamps, List.map_append, ← List.cons_append]
        exact List.mem_append_left _ (lastKept_mem _ _ _)
      have hsize : d.SizeComputed a.1 a.2 := by
        rw [hd]
        exact h.size a hlast
      obtain ⟨d', passes, hlimit⟩ : ∃ d' passes, d.limit a.1.timestamp = some (d', passes) := by
        by_cases hspan : d.interFrameLimit ≤ a.1.timestamp - d.lastTimestamp
        · exact ⟨_, _, limit_of_le hfits hspan⟩
        · exact ⟨_, _, limit_of_lt hfits hspan⟩
      obtain ⟨outcome, hsend⟩ := exists_sendVideo hlimit hsize
      have hstep : capturerMachine.step d a = some (d', [(a.1.timestamp, outcome)]) := by
        show (d.sendVideo a.1 a.2).map _ = _
        rw [hsend]
        rfl
      refine ⟨_, _, d', hrun.snoc hstep, ?_⟩
      rw [List.map_append, htr]
      rfl

/-! ## The limiter for a framerate -/

/-- The limiter of a capturer thins by the gap `gap`, from the frame that passed last. -/
structure ThinsBy (c : VideoCapturer) (gap : ℤ) : Prop where
  /-- A frame that is dropped changes nothing. -/
  dropped : ∀ t c', c.limit t = some (c', false) → c' = c
  /-- No span overflows, and the greedy subsequence passes. -/
  sequence : ∀ ts, (∀ t ∈ ts, ∀ u ∈ c.lastTimestamp :: ts, Fits 64 (t - u)) →
    c.limitAll ts =
      some ({ c with
          lastTimestamp := (thin gap c.lastTimestamp ts).getLastD c.lastTimestamp },
        thin gap c.lastTimestamp ts)
  /-- The same for calls of `sendVideo`, whatever becomes of the frames that pass. -/
  run : ∀ tr es c', capturerMachine.Run c tr es c' →
    passedTimestamps es = thin gap c.lastTimestamp (timestamps tr) ∧
      c'.lastTimestamp = (passedTimestamps es).getLastD c.lastTimestamp
  /-- All the calls return where nothing overflows, and each applies the limiter. -/
  returns : ∀ calls, Representable c calls →
    ∃ tr es c', capturerMachine.Run c tr es c' ∧ tr.map Prod.snd = calls
  limited : ∀ frame answers c' outcome, c.sendVideo frame answers = some (c', outcome) →
    c.limit frame.timestamp = some (c', outcome.passed)
  sorted : ∀ ts, (c.lastTimestamp :: thin gap c.lastTimestamp ts).Pairwise (· ≤ ·)
  /-- Any `k + 1` frames that pass, the first of them at `i` and the last at `j`. -/
  window : ∀ (ts : List ℤ) (i j k : ℕ) (_hik : i + k ≤ j)
    (_hj : j < (thin gap c.lastTimestamp ts).length),
    k * gap ≤ (thin gap c.lastTimestamp ts)[j] - (thin gap c.lastTimestamp ts)[i]

/-- A capturer thins by its interval. -/
theorem thinsBy_interFrameLimit (hgap : 0 ≤ c.interFrameLimit) :
    ThinsBy c c.interFrameLimit := by
  constructor
  · intro t c' h
    rcases (limit_eq_some_iff.mp h).2 with ⟨-, hsame, -⟩ | ⟨-, -, hpassed⟩
    · exact hsame
    · cases hpassed
  · intro ts hfits
    rw [limitAll_eq c ts hfits, lastKept_eq_getLastD]
  · intro tr es c' hrun
    obtain ⟨hc', hpassed⟩ := thins_of_run hrun
    constructor
    · exact hpassed
    · rw [hc', hpassed, ← lastKept_eq_getLastD]
  · intro calls hcalls
    exact exists_run_of_representable hcalls
  · intro frame answers c' outcome hsend
    exact limit_of_sendVideo hsend
  · intro ts
    exact (spaced_thin _ _ ts).pairwise hgap
  · intro ts i j k hik hj
    have hspaced : Spaced c.interFrameLimit (thin c.interFrameLimit c.lastTimestamp ts) :=
      (spaced_thin _ _ ts).tail
    obtain ⟨n, rfl⟩ : ∃ n, j = i + n := ⟨j - i, by omega⟩
    have hspan := hspaced.span i n hj
    have hle : (k : ℤ) * c.interFrameLimit ≤ n * c.interFrameLimit :=
      mul_le_mul_of_nonneg_right (by omega) hgap
    rw [nsmul_eq_mul] at hspan
    exact le_trans hle hspan

/-- **The rate limiter.**  For a framerate limit that does not overflow it thins by the
interval of two frames more per second. -/
theorem setFramerateLimit_thins (c : VideoCapturer) (framerate : ℤ) (hpos : 1 ≤ framerate)
    (hfits : Fits 32 (framerate + 2)) :
    ∃ d, c.setFramerateLimit framerate = some d ∧ d.lastTimestamp = c.lastTimestamp ∧
      ThinsBy d (frameInterval framerate) := by
  have hset : c.setFramerateLimit framerate =
      some { c with interFrameLimit := frameInterval framerate } := by
    unfold VideoCapturer.setFramerateLimit add
    rw [checked_of_fits hfits, Option.bind_eq_bind, Option.bind_some,
      div_of_pos (by decide) (by decide) (by omega)]
    rfl
  have hnonneg : 0 ≤ frameInterval framerate := Int.ediv_nonneg (by decide) (by omega)
  refine ⟨_, hset, rfl, ?_⟩
  exact thinsBy_interFrameLimit (c := { c with interFrameLimit := frameInterval framerate })
    hnonneg

theorem setFramerateLimit_thins_sixty :
    ∃ d, defaultCapturer.setFramerateLimit 60 = some d ∧
      d.lastTimestamp = defaultCapturer.lastTimestamp ∧ ThinsBy d (frameInterval 60) :=
  setFramerateLimit_thins defaultCapturer 60 (by decide) (by decide)

/-! ## The first frame -/

/-- A new capturer computes without overflow and lets its first frame pass. -/
def FirstFramePasses (t : ℤ) : Prop :=
  ∃ c c', VideoCapturer.construct = some c ∧ c.limit t = some (c', true)

/-- The least number of seconds has no count of microseconds. -/
theorem construct_eq_none : VideoCapturer.construct = none := by
  decide

/-- What a machine that drops the higher bits leaves: the sentinel is zero. -/
def wrappedCapturer : VideoCapturer where
  lastTimestamp := wrap 64 (secondsMin * 1000000)
  interFrameLimit := 31250
  frameWidthMax := maxFrameWidth
  frameHeightMax := maxFrameHeight

theorem wrappedCapturer_lastTimestamp : wrappedCapturer.lastTimestamp = 0 := by
  decide

/-- **The first frame.**  The sentinel overflows for every timestamp; where it wraps, the
first frame is dropped in the first 31250 microseconds of its clock. -/
theorem not_firstFramePasses (t : ℤ) (ht : Fits 64 t) :
    ¬ FirstFramePasses t ∧
      ((∃ c', wrappedCapturer.limit t = some (c', true)) ↔ 31250 ≤ t) := by
  constructor
  · rintro ⟨c, c', hconstruct, -⟩
    rw [construct_eq_none] at hconstruct
    cases hconstruct
  · have hspan : t - wrappedCapturer.lastTimestamp = t := by
      rw [wrappedCapturer_lastTimestamp, sub_zero]
    constructor
    · rintro ⟨c', h⟩
      rcases (limit_eq_some_iff.mp h).2 with ⟨-, -, hpassed⟩ | ⟨hle, -, -⟩
      · cases hpassed
      · rw [hspan] at hle
        exact hle
    · intro hle
      exact ⟨_, limit_of_le (by rw [hspan]; exact ht) (by rw [hspan]; exact hle)⟩

theorem not_firstFramePasses_zero :
    ¬ FirstFramePasses 0 ∧
      ((∃ c', wrappedCapturer.limit 0 = some (c', true)) ↔ (31250 : ℤ) ≤ 0) :=
  not_firstFramePasses 0 (by decide)

/-- A capture clock that starts at zero: the sentinel overflows, and wrapped it drops the
frame. -/
theorem first_frame_dropped :
    ¬ FirstFramePasses 0 ∧ wrappedCapturer.limit 0 = some (wrappedCapturer, false) := by
  constructor
  · rintro ⟨c, c', hconstruct, -⟩
    rw [construct_eq_none] at hconstruct
    cases hconstruct
  · decide

end

end Caff
