/-
# Audio and broadcast boundaries

The buffer in which audio is cut into chunks belongs to the instance and survives its
broadcasts.  `AudioWorld` has the device, the broadcast slot with the states of all
broadcasts of the instance, and the call of `caff_sendAudio` of the audio thread, which
reads the slot, tests the state and copies, round by round.  A byte carries the broadcast
it was submitted during.
-/
import Caffeine.AudioDevice
import Caffeine.Takeovers
import Caffeine.Library.Noninterference

namespace Caff

open Machine (holds_of_some holds_of_guard holds_of_ite)

/-! ## The states of a broadcast -/

/-- The transitions of `start` and of the broadcast thread. -/
def State.advance : State → Option State
  | .offline => some .starting
  | .starting => some .streaming
  | .streaming => some .live
  | .live | .stopping => none

/-- Every move of the state of a broadcast is one of these, or one of `stop`. -/
theorem StateMoves.cases_advance {st st' : State} {a : Action} (h : StateMoves st a st') :
    st' = st ∨ st.advance = some st' ∨ st' = .stopping ∨ st = .stopping ∧ st' = .offline := by
  cases h <;> simp [State.advance]

/-! ## The world -/

/-- A byte, and the broadcast it was submitted during. -/
abbrev AudioByte := ℕ × UInt8

/-- Where the call of `caff_sendAudio` is: it has got broadcast `b`, or it has found it
online and is in the loop of the device. -/
inductive AudioCall
  | idle
  | got (b : ℕ) (samples : Bytes) (samplesPerChannel : ℕ)
  | copying (b : ℕ) (l : CopyLoop AudioByte)
  deriving DecidableEq, Repr

def AudioCall.isCopying : AudioCall → Bool
  | .copying _ _ => true
  | _ => false

structure AudioWorld where
  audioDevice : AudioDevice AudioByte := .init
  broadcast : Option ℕ := none
  state : ℕ → State := fun _ => .offline
  broadcasts : ℕ := 0  -- created so far
  call : AudioCall := .idle

/-- A chunk is handed on while a broadcast is online, or none. -/
inductive AudioEvent
  | delivered (online : Option ℕ) (chunk : List AudioByte)
  deriving DecidableEq, Repr

/-- A step of an audio call is labelled with the broadcast the call has got. -/
inductive AudioAction
  | startBroadcast
  | advance
  | stop
  | ended
  | sendAudio (b : Option ℕ) (samples : Bytes) (samplesPerChannel : ℕ)
  | test (b : ℕ)
  | copy (b : ℕ)
  deriving DecidableEq, Repr

namespace AudioWorld

def setState (s : AudioWorld) (b : ℕ) (st : State) : AudioWorld :=
  { s with state := Function.update s.state b st }

/-- The broadcast that is online. -/
def online (s : AudioWorld) : Option ℕ := s.broadcast.filter fun b => (s.state b).isOnline

/-- `startBroadcast` puts a new broadcast in the empty slot. -/
def startStep (s : AudioWorld) : Option AudioWorld :=
  match s.broadcast with
  | none =>
      some { s with
        broadcast := some s.broadcasts
        state := Function.update s.state s.broadcasts .offline
        broadcasts := s.broadcasts + 1 }
  | some _ => none

/-- A transition of the broadcast. -/
def advanceStep (s : AudioWorld) : Option AudioWorld :=
  match s.broadcast with
  | none => none
  | some b => (s.state b).advance.map (s.setState b)

/-- `stop` stores `Stopping`. -/
def stopStep (s : AudioWorld) : Option AudioWorld := s.broadcast.map (s.setState · .stopping)

/-- `stop` stores `Offline`, and `endBroadcast` empties the slot. -/
def endedStep (s : AudioWorld) : Option AudioWorld :=
  match s.broadcast with
  | none => none
  | some b =>
      if s.state b = .stopping then
        some { s with broadcast := none, state := Function.update s.state b .offline }
      else none

/-- `caff_sendAudio` reads the slot. -/
def sendStep (s : AudioWorld) (b : Option ℕ) (samples : Bytes) (n : ℕ) : Option AudioWorld :=
  match s.call with
  | .idle =>
      if s.broadcast = b ∧ samples.length = 4 * n ∧ 0 < n ∧ 4 * n < 2 ^ 64 then
        match b with
        | none => some s
        | some b => some { s with call := .got b samples n }
      else none
  | _ => none

/-- `Broadcast::sendAudio` tests the state. -/
def testStep (s : AudioWorld) (b : ℕ) : Option AudioWorld :=
  match s.call with
  | .got c samples n =>
      if c = b then
        if (s.state b).isOnline then
          some { s with call := .copying b (s.audioDevice.beginCopy (samples.map (b, ·)) n) }
        else some { s with call := .idle }
      else none
  | _ => none

/-- The loop of the device is left, or goes through a round. -/
def copyStep (s : AudioWorld) (b : ℕ) : Option (AudioWorld × List AudioEvent) :=
  match s.call with
  | .copying c l =>
      if c = b then
        if l.toCopy = 0 then some ({ s with call := .idle }, [])
        else
          match s.audioDevice.copyRound l with
          | none => none
          | some (audioDevice, l, chunk) =>
              some ({ s with audioDevice, call := .copying b l },
                chunk.toList.map (.delivered s.online))
      else none
  | _ => none

def step (s : AudioWorld) : AudioAction → Option (AudioWorld × List AudioEvent)
  | .startBroadcast => s.startStep.map (·, [])
  | .advance => s.advanceStep.map (·, [])
  | .stop => s.stopStep.map (·, [])
  | .ended => s.endedStep.map (·, [])
  | .sendAudio b samples n => (s.sendStep b samples n).map (·, [])
  | .test b => (s.testStep b).map (·, [])
  | .copy b => s.copyStep b

end AudioWorld

/-- The audio of an instance as a machine. -/
def isolationMachine : Machine AudioWorld AudioAction AudioEvent := ⟨AudioWorld.step⟩

/-- A run of an instance from its construction. -/
def AudioRuns (tr : List (AudioWorld × AudioAction)) (es : List AudioEvent) (s : AudioWorld) :
    Prop :=
  isolationMachine.Run {} tr es s

/-! ## What a step can do -/

inductive AudioMoves (s : AudioWorld) : AudioAction → AudioWorld → List AudioEvent → Prop
  | startBroadcast (hslot : s.broadcast = none) :
      AudioMoves s .startBroadcast
        { s with
          broadcast := some s.broadcasts
          state := Function.update s.state s.broadcasts .offline
          broadcasts := s.broadcasts + 1 } []
  | advance (b : ℕ) (st : State) (hslot : s.broadcast = some b)
      (hst : (s.state b).advance = some st) : AudioMoves s .advance (s.setState b st) []
  | stop (b : ℕ) (hslot : s.broadcast = some b) :
      AudioMoves s .stop (s.setState b .stopping) []
  | ended (b : ℕ) (hslot : s.broadcast = some b) (hst : s.state b = .stopping) :
      AudioMoves s .ended
        { s with broadcast := none, state := Function.update s.state b .offline } []
  | sendNone (samples : Bytes) (n : ℕ) (hcall : s.call = .idle) (hslot : s.broadcast = none)
      (hlength : samples.length = 4 * n) (hpos : 0 < n) (hwrap : 4 * n < 2 ^ 64) :
      AudioMoves s (.sendAudio none samples n) s []
  | send (b : ℕ) (samples : Bytes) (n : ℕ) (hcall : s.call = .idle) (hslot : s.broadcast = some b)
      (hlength : samples.length = 4 * n) (hpos : 0 < n) (hwrap : 4 * n < 2 ^ 64) :
      AudioMoves s (.sendAudio (some b) samples n) { s with call := .got b samples n } []
  | pass (b : ℕ) (samples : Bytes) (n : ℕ) (hcall : s.call = .got b samples n)
      (honline : (s.state b).isOnline = true) :
      AudioMoves s (.test b)
        { s with call := .copying b (s.audioDevice.beginCopy (samples.map (b, ·)) n) } []
  | refuse (b : ℕ) (samples : Bytes) (n : ℕ) (hcall : s.call = .got b samples n)
      (honline : (s.state b).isOnline = false) :
      AudioMoves s (.test b) { s with call := .idle } []
  | leave (b : ℕ) (l : CopyLoop AudioByte) (hcall : s.call = .copying b l)
      (hcopy : l.toCopy = 0) : AudioMoves s (.copy b) { s with call := .idle } []
  | round (b : ℕ) (l l' : CopyLoop AudioByte) (d : AudioDevice AudioByte)
      (chunk : Option (List AudioByte)) (hcall : s.call = .copying b l) (hcopy : l.toCopy ≠ 0)
      (hround : s.audioDevice.copyRound l = some (d, l', chunk)) :
      AudioMoves s (.copy b) { s with audioDevice := d, call := .copying b l' }
        (chunk.toList.map (.delivered s.online))

section

variable {s s' : AudioWorld} {a : AudioAction} {out : List AudioEvent}

/-- **Inversion of a step.** -/
theorem audioMoves_of_step (h : isolationMachine.step s a = some (s', out)) :
    AudioMoves s a s' out := by
  have hstep : s.step a = some (s', out) := h
  cases a with
  | startBroadcast =>
      rw [AudioWorld.step, AudioWorld.startStep.eq_def] at hstep
      split at hstep
      · rename_i hslot
        exact holds_of_some hstep (.startBroadcast hslot)
      · cases hstep
  | advance =>
      rw [AudioWorld.step, AudioWorld.advanceStep.eq_def] at hstep
      split at hstep
      · cases hstep
      · rename_i b hslot
        rcases hst : (s.state b).advance with _ | st
        · rw [hst] at hstep
          cases hstep
        · rw [hst] at hstep
          exact holds_of_some hstep (.advance b st hslot hst)
  | stop =>
      rw [AudioWorld.step, AudioWorld.stopStep] at hstep
      rcases hslot : s.broadcast with _ | b
      · rw [hslot] at hstep
        cases hstep
      · rw [hslot] at hstep
        exact holds_of_some hstep (.stop b hslot)
  | ended =>
      rw [AudioWorld.step, AudioWorld.endedStep.eq_def] at hstep
      split at hstep
      · cases hstep
      · rename_i b hslot
        split at hstep
        · rename_i hst
          exact holds_of_some hstep (.ended b hslot hst)
        · cases hstep
  | sendAudio b samples n =>
      rw [AudioWorld.step, AudioWorld.sendStep.eq_def] at hstep
      split at hstep
      · rename_i hcall
        split at hstep
        · rename_i hguard
          obtain ⟨hslot, hlength, hpos, hwrap⟩ := hguard
          rcases b with _ | b
          · exact holds_of_some hstep (.sendNone samples n hcall hslot hlength hpos hwrap)
          · exact holds_of_some hstep (.send b samples n hcall hslot hlength hpos hwrap)
        · cases hstep
      · cases hstep
  | test b =>
      rw [AudioWorld.step, AudioWorld.testStep.eq_def] at hstep
      split at hstep
      · rename_i c samples n hcall
        split at hstep
        · rename_i hc
          rw [hc] at hcall
          split at hstep
          · rename_i honline
            exact holds_of_some hstep (.pass b samples n hcall honline)
          · rename_i honline
            exact holds_of_some hstep (.refuse b samples n hcall (by simpa using honline))
        · cases hstep
      · cases hstep
  | copy b =>
      rw [AudioWorld.step, AudioWorld.copyStep.eq_def] at hstep
      split at hstep
      · rename_i c l hcall
        split at hstep
        · rename_i hc
          rw [hc] at hcall
          split at hstep
          · rename_i hcopy
            exact holds_of_some hstep (.leave b l hcall hcopy)
          · rename_i hcopy
            split at hstep
            · cases hstep
            · rename_i d l' chunk hround
              exact holds_of_some hstep (.round b l l' d chunk hcall hcopy hround)
        · cases hstep
      · cases hstep

/-- And back: the moves are steps. -/
theorem AudioMoves.step (h : AudioMoves s a s' out) :
    isolationMachine.step s a = some (s', out) := by
  show s.step a = some (s', out)
  cases h with
  | startBroadcast hslot => simp [AudioWorld.step, AudioWorld.startStep, hslot]
  | advance b st hslot hst => simp [AudioWorld.step, AudioWorld.advanceStep, hslot, hst]
  | stop b hslot => simp [AudioWorld.step, AudioWorld.stopStep, hslot]
  | ended b hslot hst => simp [AudioWorld.step, AudioWorld.endedStep, hslot, hst]
  | sendNone samples n hcall hslot hlength hpos hwrap =>
      unfold AudioWorld.step AudioWorld.sendStep
      rw [hcall]
      simp only [if_pos (⟨hslot, hlength, hpos, hwrap⟩ :
        s.broadcast = none ∧ samples.length = 4 * n ∧ 0 < n ∧ 4 * n < 2 ^ 64), Option.map_some]
  | send b samples n hcall hslot hlength hpos hwrap =>
      unfold AudioWorld.step AudioWorld.sendStep
      rw [hcall]
      simp only [if_pos (⟨hslot, hlength, hpos, hwrap⟩ :
        s.broadcast = some b ∧ samples.length = 4 * n ∧ 0 < n ∧ 4 * n < 2 ^ 64), Option.map_some]
  | pass b samples n hcall honline => simp [AudioWorld.step, AudioWorld.testStep, hcall, honline]
  | refuse b samples n hcall honline =>
      simp [AudioWorld.step, AudioWorld.testStep, hcall, honline]
  | leave b l hcall hcopy => simp [AudioWorld.step, AudioWorld.copyStep, hcall, hcopy]
  | round b l l' d chunk hcall hcopy hround =>
      simp [AudioWorld.step, AudioWorld.copyStep, hcall, hcopy, hround]

end

/-! ## One call by itself -/

/-- The rounds of a call without other steps in between are the loop of the device. -/
theorem exec_copyLoop {s : AudioWorld} {b : ℕ} {l : CopyLoop AudioByte}
    (hcall : s.call = .copying b l) (hloop : s.audioDevice.Looping l) :
    ∃ k d chunks, s.audioDevice.copyLoop l = some (d, chunks) ∧
      isolationMachine.exec s (List.replicate k (.copy b)) =
        some ({ s with audioDevice := d, call := .idle }, chunks.map (.delivered s.online)) := by
  induction hn : l.remainingData using Nat.strongRecOn generalizing s l with
  | _ n ih =>
      by_cases hcopy : l.toCopy = 0
      · have hleave := (AudioMoves.leave b l hcall hcopy).step
        refine ⟨1, s.audioDevice, [], AudioDevice.copyLoop_of_toCopy_eq_zero hcopy, ?_⟩
        rw [List.replicate_one, Machine.exec, hleave]
        rfl
      · obtain ⟨d, l', hround, hloop', -⟩ := hloop.copyRound
        have hless := AudioDevice.remainingData_lt_of_copyRound hround hcopy
        have hstep := (AudioMoves.round b l l' d _ hcall hcopy hround).step
        -- the rest of the loop, from the world after the round
        generalize hs : ({ s with audioDevice := d, call := .copying b l' } : AudioWorld) = s'
          at hstep
        have hcall' : s'.call = .copying b l' := by rw [← hs]
        have hdevice : s'.audioDevice = d := by rw [← hs]
        obtain ⟨k, d', chunks, hrest, hexec⟩ :=
          ih l'.remainingData (by omega) hcall' (hdevice ▸ hloop') rfl
        rw [hdevice] at hrest
        refine ⟨k + 1, d', _, AudioDevice.copyLoop_of_copyRound hcopy hround hrest, ?_⟩
        rw [List.replicate_succ, Machine.exec, hstep]
        simp only [hexec, List.map_append]
        rw [← hs]
        rfl

/-- **The steps of one call**: they do to the device what `AudioDevice::sendAudio` does, and
its chunks are delivered. -/
theorem exec_sendAudio {s : AudioWorld} {b n : ℕ} {samples : Bytes} (hidle : s.call = .idle)
    (hready : s.audioDevice.Ready) (honline : s.online = some b)
    (hlength : samples.length = 4 * n) (hpos : 0 < n) (hwrap : 4 * n < 2 ^ 64) :
    ∃ k d chunks, s.audioDevice.sendAudio (samples.map (b, ·)) n = some (d, chunks) ∧
      isolationMachine.exec s
          (.sendAudio (some b) samples n :: .test b :: List.replicate k (.copy b)) =
        some ({ s with audioDevice := d }, chunks.map (.delivered (some b))) := by
  obtain ⟨hslot, hstate⟩ := Option.filter_eq_some_iff.mp honline
  have hsend := (AudioMoves.send b samples n hidle hslot hlength hpos hwrap).step
  generalize hs₁ : ({ s with call := .got b samples n } : AudioWorld) = s₁ at hsend
  have hcall₁ : s₁.call = .got b samples n := by rw [← hs₁]
  have hstate₁ : (s₁.state b).isOnline = true := by
    rw [← hs₁]
    exact hstate
  have hpass := (AudioMoves.pass b samples n hcall₁ hstate₁).step
  generalize hs₂ : ({ s₁ with
    call := .copying b (s₁.audioDevice.beginCopy (samples.map (b, ·)) n) } : AudioWorld) = s₂
    at hpass
  have hdevice : s₂.audioDevice = s.audioDevice := by rw [← hs₂, ← hs₁]
  have hcall₂ : s₂.call = .copying b (s.audioDevice.beginCopy (samples.map (b, ·)) n) := by
    rw [← hs₂, ← hs₁]
  have hloop : s₂.audioDevice.Looping (s.audioDevice.beginCopy (samples.map (b, ·)) n) := by
    rw [hdevice]
    apply hready.looping_beginCopy
    exact ⟨by rw [List.length_map]; exact hlength, hwrap⟩
  obtain ⟨k, d, chunks, hcopy, hexec⟩ := exec_copyLoop hcall₂ hloop
  rw [hdevice] at hcopy
  have honline₂ : s₂.online = some b := by
    rw [← hs₂, ← hs₁]
    exact honline
  refine ⟨k, d, chunks, hcopy, ?_⟩
  rw [Machine.exec, hsend]
  simp only [Machine.exec, hpass, hexec, honline₂, List.nil_append]
  rw [← hs₂, ← hs₁, ← hidle]

/-! ## The condition -/

/-- When a broadcast is created the buffer of the device is empty, and no audio call is in
its loop. -/
def AudioSeparate (s : AudioWorld) (a : AudioAction) : Prop :=
  a = .startBroadcast → s.audioDevice.bufferIndex = 0 ∧ s.call.isCopying = false

instance (s : AudioWorld) (a : AudioAction) : Decidable (AudioSeparate s a) :=
  inferInstanceAs (Decidable (a = .startBroadcast → _))

/-! ## What is kept -/

/-- The bytes in the device and in its loop are those of the broadcast created last. -/
structure AudioInv (s : AudioWorld) : Prop where
  ready : s.audioDevice.Ready
  current : ∀ b, s.broadcast = some b → b + 1 = s.broadcasts
  online : ∀ b, (s.state b).isOnline = true → s.broadcast = some b
  pending : ∀ x ∈ s.audioDevice.pending, x.1 + 1 = s.broadcasts
  got : ∀ b samples n, s.call = .got b samples n → samples.length = 4 * n ∧ 4 * n < 2 ^ 64
  copying : ∀ b l, s.call = .copying b l →
    b + 1 = s.broadcasts ∧ s.audioDevice.Looping l ∧ ∀ x ∈ l.data, x.1 = b

theorem audioInv_init : AudioInv {} where
  ready := AudioDevice.ready_init
  current b h := by cases h
  online b h := by cases h
  pending x h := by
    have hnil : (AudioDevice.init : AudioDevice AudioByte).pending = [] := rfl
    rw [hnil] at h
    cases h
  got b samples n h := by cases h
  copying b l h := by cases h

section

variable {s s' : AudioWorld} {a : AudioAction} {out : List AudioEvent}

/-- An empty buffer has nothing pending. -/
theorem AudioDevice.pending_eq_nil {α : Type} {d : AudioDevice α} (h : d.bufferIndex = 0) :
    d.pending = [] := by
  rw [AudioDevice.pending, h, List.take_zero]

/-- An online state after one has been stored is the one stored, or was there before. -/
theorem isOnline_update {f : ℕ → State} {b c : ℕ} {st : State}
    (h : (Function.update f b st c).isOnline = true) :
    c = b ∧ st.isOnline = true ∨ (f c).isOnline = true := by
  by_cases hc : c = b
  · left
    rw [hc, Function.update_self] at h
    exact ⟨hc, h⟩
  · right
    rwa [Function.update_of_ne hc] at h

/-- The state of the broadcast in the slot may be stored to. -/
theorem AudioInv.setState (h : AudioInv s) {b : ℕ} (hslot : s.broadcast = some b) (st : State) :
    AudioInv (s.setState b st) := by
  constructor
  · exact h.ready
  · exact h.current
  · intro c hc
    rcases isOnline_update hc with ⟨rfl, -⟩ | hst
    · exact hslot
    · exact h.online c hst
  · exact h.pending
  · exact h.got
  · exact h.copying

/-- Where the call of the audio thread is at another place than in the loop. -/
theorem AudioInv.setCall (h : AudioInv s) {call : AudioCall}
    (hgot : ∀ b samples n, call = .got b samples n → samples.length = 4 * n ∧ 4 * n < 2 ^ 64)
    (hcopying : ∀ b l, call = .copying b l →
      b + 1 = s.broadcasts ∧ s.audioDevice.Looping l ∧ ∀ x ∈ l.data, x.1 = b) :
    AudioInv { s with call := call } := by
  constructor
  · exact h.ready
  · exact h.current
  · exact h.online
  · exact h.pending
  · exact hgot
  · exact hcopying

/-- A broadcast is created while nothing is pending and no call is in its loop. -/
theorem AudioInv.startBroadcast (h : AudioInv s) (hslot : s.broadcast = none)
    (hindex : s.audioDevice.bufferIndex = 0) (hnot : s.call.isCopying = false) :
    AudioInv { s with
      broadcast := some s.broadcasts
      state := Function.update s.state s.broadcasts .offline
      broadcasts := s.broadcasts + 1 } := by
  constructor
  · exact h.ready
  · intro b hb
    rw [← Option.some.inj hb]
  · intro b hb
    rcases isOnline_update hb with ⟨-, hst⟩ | hst
    · cases hst
    · rw [h.online b hst] at hslot
      cases hslot
  · intro x hx
    have hnil := AudioDevice.pending_eq_nil hindex
    have hx' : x ∈ s.audioDevice.pending := hx
    rw [hnil] at hx'
    cases hx'
  · exact h.got
  · intro b l hcall
    have hcopying : s.call = .copying b l := hcall
    rw [hcopying] at hnot
    cases hnot

/-- The slot is emptied of a broadcast that is stopping. -/
theorem AudioInv.ended (h : AudioInv s) {b : ℕ} (hslot : s.broadcast = some b)
    (hst : s.state b = .stopping) :
    AudioInv { s with broadcast := none, state := Function.update s.state b .offline } := by
  constructor
  · exact h.ready
  · intro c hc
    cases hc
  · intro c hc
    rcases isOnline_update hc with ⟨-, hst'⟩ | hst'
    · cases hst'
    · -- only the broadcast in the slot was online
      have hcb := h.online c hst'
      rw [hslot, Option.some.injEq] at hcb
      rw [← hcb, hst] at hst'
      cases hst'
  · exact h.pending
  · exact h.got
  · exact h.copying

/-- The audio of a broadcast that is online goes to the loop. -/
theorem AudioInv.pass (h : AudioInv s) {b n : ℕ} {samples : Bytes}
    (hcall : s.call = .got b samples n) (honline : (s.state b).isOnline = true) :
    AudioInv { s with
      call := .copying b (s.audioDevice.beginCopy (samples.map (b, ·)) n) } := by
  apply h.setCall
  · intro c samples' n' hcall'
    cases hcall'
  · intro c l hcall'
    cases hcall'
    obtain ⟨hlength, hwrap⟩ := h.got b samples n hcall
    refine ⟨h.current b (h.online b honline), ?_, ?_⟩
    · apply h.ready.looping_beginCopy
      exact ⟨by rw [List.length_map]; exact hlength, hwrap⟩
    · intro x hx
      obtain ⟨y, -, rfl⟩ := List.mem_map.mp hx
      rfl

/-- A round of the loop: all that goes through it was submitted during the same broadcast. -/
theorem AudioInv.round (h : AudioInv s) {b : ℕ} {l l' : CopyLoop AudioByte}
    {d : AudioDevice AudioByte} {chunk : Option (List AudioByte)}
    (hcall : s.call = .copying b l)
    (hround : s.audioDevice.copyRound l = some (d, l', chunk)) :
    AudioInv { s with audioDevice := d, call := .copying b l' } := by
  obtain ⟨hb, hloop, hdata⟩ := h.copying b l hcall
  obtain ⟨d', l'', hround', hloop', hpending', hdata'⟩ := hloop.copyRound
  rw [hround, Option.some.injEq, Prod.mk.injEq, Prod.mk.injEq] at hround'
  obtain ⟨rfl, rfl, -⟩ := hround'
  have hall : ∀ x ∈ s.audioDevice.pending ++ l.data, x.1 = b := by
    intro x hx
    rcases List.mem_append.mp hx with hx | hx
    · have := h.pending x hx
      omega
    · exact hdata x hx
  constructor
  · exact hloop'.ready
  · exact h.current
  · exact h.online
  · intro x hx
    rw [hpending'] at hx
    have := hall x (Chunking.mem_of_mem_round (.inr (.inl hx)))
    show x.1 + 1 = s.broadcasts
    omega
  · intro c samples n hcall'
    cases hcall'
  · intro c l₀ hcall'
    cases hcall'
    refine ⟨hb, hloop', ?_⟩
    intro x hx
    rw [hdata'] at hx
    exact hall x (Chunking.mem_of_mem_round (.inr (.inr hx)))

/-- The call of the audio thread returns. -/
theorem AudioInv.idle (h : AudioInv s) : AudioInv { s with call := .idle } := by
  apply h.setCall
  · intro c samples n hcall
    cases hcall
  · intro c l hcall
    cases hcall

/-- **Step lemma.** -/
theorem AudioInv.moves (h : AudioInv s) (hC : AudioSeparate s a) (hmoves : AudioMoves s a s' out) :
    AudioInv s' := by
  cases hmoves with
  | startBroadcast hslot => exact h.startBroadcast hslot (hC rfl).1 (hC rfl).2
  | advance b st hslot hst => exact h.setState hslot st
  | stop b hslot => exact h.setState hslot .stopping
  | ended b hslot hst => exact h.ended hslot hst
  | sendNone samples n hcall hslot hlength hpos hwrap => exact h
  | send b samples n hcall hslot hlength hpos hwrap =>
      apply h.setCall
      · intro c samples' n' hcall'
        cases hcall'
        exact ⟨hlength, hwrap⟩
      · intro c l hcall'
        cases hcall'
  | pass b samples n hcall honline => exact h.pass hcall honline
  | refuse b samples n hcall honline => exact h.idle
  | leave b l hcall hcopy => exact h.idle
  | round b l l' d chunk hcall hcopy hround => exact h.round hcall hround

/-- **What is delivered** in a step is of the broadcast created last. -/
theorem AudioInv.delivered (h : AudioInv s) (hmoves : AudioMoves s a s' out) {online : Option ℕ}
    {chunk : List AudioByte} (hmem : .delivered online chunk ∈ out) :
    online = s.online ∧ ∃ b, a = .copy b ∧ b + 1 = s.broadcasts ∧ ∀ x ∈ chunk, x.1 = b := by
  cases hmoves with
  | round b l l' d c hcall hcopy hround =>
      obtain ⟨hb, hloop, hdata⟩ := h.copying b l hcall
      obtain ⟨d', l'', hround', -⟩ := hloop.copyRound
      rw [hround, Option.some.injEq, Prod.mk.injEq, Prod.mk.injEq] at hround'
      obtain ⟨-, -, rfl⟩ := hround'
      obtain ⟨chunk', hchunk, heq⟩ := List.mem_map.mp hmem
      cases heq
      refine ⟨rfl, b, rfl, hb, ?_⟩
      intro x hx
      have hmem' : x ∈ s.audioDevice.pending ++ l.data := by
        apply Chunking.mem_of_mem_round (n := chunkSize)
        left
        exact List.mem_flatten.mpr ⟨chunk, hchunk, hx⟩
      rcases List.mem_append.mp hmem' with hx | hx
      · have := h.pending x hx
        omega
      · exact hdata x hx
  | _ => cases hmem

end

/-! ## Without the audio of one broadcast -/

/-- The step is one of an audio call during broadcast `b`. -/
def AudioAction.during (b : ℕ) : AudioAction → Bool
  | .sendAudio (some c) _ _ => c = b
  | .test c => c = b
  | .copy c => c = b
  | _ => false

/-- The chunk, if broadcast `b` is online. -/
def AudioEvent.chunkOf (b : ℕ) : AudioEvent → Option (List AudioByte)
  | .delivered online chunk => if online = some b then some chunk else none

/-- The chunks that are delivered while broadcast `b` is online. -/
def chunksOf (b : ℕ) (es : List AudioEvent) : List (List AudioByte) :=
  es.filterMap (AudioEvent.chunkOf b)

/-- A call during `b` is not there. -/
def AudioCall.without (b : ℕ) : AudioCall → AudioCall
  | .got c samples n => if c = b then .idle else .got c samples n
  | .copying c l => if c = b then .idle else .copying c l
  | .idle => .idle

/-- **The states with and without the audio of `b`.**  While `b` is the broadcast created last
the devices differ, and without the audio of `b` the buffer is empty. -/
structure SameWithout (b : ℕ) (s t : AudioWorld) : Prop where
  left : AudioInv s
  right : AudioInv t
  broadcast : t.broadcast = s.broadcast
  state : t.state = s.state
  broadcasts : t.broadcasts = s.broadcasts
  call : t.call = s.call.without b
  pending : s.broadcasts ≠ b + 1 → t.audioDevice.pending = s.audioDevice.pending
  empty : s.broadcasts = b + 1 → t.audioDevice.pending = []

section

variable {s s' t : AudioWorld} {a : AudioAction} {out : List AudioEvent} {b b' : ℕ}

theorem sameWithout_init (b : ℕ) : SameWithout b {} {} where
  left := audioInv_init
  right := audioInv_init
  broadcast := rfl
  state := rfl
  broadcasts := rfl
  call := rfl
  pending _ := rfl
  empty h := by cases h

/-- Devices with the same in their buffers begin to copy alike. -/
theorem AudioDevice.Ready.beginCopy_eq {d d' : AudioDevice AudioByte} (h : d.Ready)
    (h' : d'.Ready) (hpending : d'.pending = d.pending) (data : List AudioByte) (n : ℕ) :
    d'.beginCopy data n = d.beginCopy data n := by
  have hindex : d'.bufferIndex = d.bufferIndex := by
    rw [← h'.length_pending, ← h.length_pending, hpending]
  unfold AudioDevice.beginCopy
  rw [h.length, h'.length, hindex]

/-- And their local variables are determined by the data that are left. -/
theorem AudioDevice.Looping.ext {d d' : AudioDevice AudioByte} {l l' : CopyLoop AudioByte}
    (h : d.Looping l) (h' : d'.Looping l') (hpending : d'.pending = d.pending)
    (hdata : l'.data = l.data) : l' = l := by
  have hindex : d'.bufferIndex = d.bufferIndex := by
    rw [← h'.ready.length_pending, ← h.ready.length_pending, hpending]
  have hremaining : l'.remainingData = l.remainingData := by
    rw [← h'.data, ← h.data, hdata]
  have hbuffer : l'.remainingBuffer = l.remainingBuffer := by
    have := h.buffer
    have := h'.buffer
    omega
  cases l
  cases l'
  simp_all

/-- Nothing that is online is of another broadcast than the one created last. -/
theorem AudioInv.eq_of_online (h : AudioInv s) {c : ℕ} (hc : s.online = some c) :
    s.broadcast = some c ∧ c + 1 = s.broadcasts := by
  have hslot : s.broadcast = some c := (Option.filter_eq_some_iff.mp hc).1
  exact ⟨hslot, h.current c hslot⟩

/-- A call during `b` is there on one side only. -/
theorem AudioCall.without_got_self (samples : Bytes) (n : ℕ) :
    (AudioCall.got b samples n).without b = .idle :=
  if_pos rfl

theorem AudioCall.without_copying_self (l : CopyLoop AudioByte) :
    (AudioCall.copying b l).without b = .idle :=
  if_pos rfl

/-- A call that is not during `b` is there on both sides. -/
theorem AudioCall.without_got {c : ℕ} (hc : c ≠ b) (samples : Bytes) (n : ℕ) :
    (AudioCall.got c samples n).without b = .got c samples n :=
  if_neg hc

theorem AudioCall.without_copying {c : ℕ} (hc : c ≠ b) (l : CopyLoop AudioByte) :
    (AudioCall.copying c l).without b = .copying c l :=
  if_neg hc

/-- The audio call may go on, on both sides. -/
theorem SameWithout.setCall (h : SameWithout b s t) {call call' : AudioCall}
    (hinv : AudioInv { s with call := call }) (hinv' : AudioInv { t with call := call' })
    (hcall : call' = call.without b) :
    SameWithout b { s with call := call } { t with call := call' } where
  left := hinv
  right := hinv'
  broadcast := h.broadcast
  state := h.state
  broadcasts := h.broadcasts
  call := hcall
  pending := h.pending
  empty := h.empty

/-- **A step of the audio of `b`** keeps the relation and shows nothing of `b'`. -/
theorem SameWithout.hidden (h : SameWithout b s t) (hne : b' ≠ b)
    (ha : a.during b = true) (hC : AudioSeparate s a) (hmoves : AudioMoves s a s' out) :
    SameWithout b s' t ∧ out.filterMap (AudioEvent.chunkOf b') = [] := by
  have hinv := h.left.moves hC hmoves
  have hcall := h.call
  cases hmoves with
  | send c samples n hidle hslot hlength hpos hwrap =>
      obtain rfl : c = b := by simpa [AudioAction.during] using ha
      rw [hidle] at hcall
      exact ⟨h.setCall hinv h.right (hcall.trans (AudioCall.without_got_self samples n).symm), rfl⟩
  | pass c samples n hgot honline =>
      obtain rfl : c = b := by simpa [AudioAction.during] using ha
      rw [hgot, AudioCall.without_got_self] at hcall
      exact ⟨h.setCall hinv h.right (hcall.trans (AudioCall.without_copying_self _).symm), rfl⟩
  | refuse c samples n hgot honline =>
      obtain rfl : c = b := by simpa [AudioAction.during] using ha
      rw [hgot, AudioCall.without_got_self] at hcall
      exact ⟨h.setCall hinv h.right hcall, rfl⟩
  | leave c l hcopying hcopy =>
      obtain rfl : c = b := by simpa [AudioAction.during] using ha
      rw [hcopying, AudioCall.without_copying_self] at hcall
      exact ⟨h.setCall hinv h.right hcall, rfl⟩
  | round c l l' d chunk hcopying hcopy hround =>
      obtain rfl : c = b := by simpa [AudioAction.during] using ha
      have hlast := (h.left.copying c l hcopying).1
      rw [hcopying, AudioCall.without_copying_self] at hcall
      constructor
      · refine ⟨hinv, h.right, h.broadcast, h.state, h.broadcasts, ?_, ?_, h.empty⟩
        · exact hcall.trans (AudioCall.without_copying_self l').symm
        · intro hnot
          exact absurd hlast.symm hnot
      · -- it is the only broadcast that can be online
        rw [List.filterMap_eq_nil_iff]
        intro e he
        obtain ⟨chunk', -, rfl⟩ := List.mem_map.mp he
        show (if s.online = some b' then some chunk' else none) = none
        rw [if_neg]
        intro honline
        have := (h.left.eq_of_online honline).2
        omega
  | startBroadcast hslot => cases ha
  | advance c st hslot hst => cases ha
  | stop c hslot => cases ha
  | ended c hslot hst => cases ha
  | sendNone samples n hidle hslot hlength hpos hwrap => cases ha

/-- And without the audio of `b` no other call is in the loop. -/
theorem AudioCall.isCopying_without {call : AudioCall} (h : call.isCopying = false) :
    (call.without b).isCopying = false := by
  unfold AudioCall.without
  split
  · split
    · rfl
    · rfl
  · cases h
  · rfl

/-- The audio world without the audio of `b` also meets the condition. -/
theorem SameWithout.separate (h : SameWithout b s t) (hC : AudioSeparate s a) :
    AudioSeparate t a := by
  intro ha
  obtain ⟨hindex, hnot⟩ := hC ha
  constructor
  · rw [← h.right.ready.length_pending]
    by_cases hb : s.broadcasts = b + 1
    · rw [h.empty hb]
      rfl
    · rw [h.pending hb, AudioDevice.pending_eq_nil hindex]
      rfl
  · rw [h.call]
    exact AudioCall.isCopying_without hnot

/-- What is online is the same. -/
theorem SameWithout.online (h : SameWithout b s t) : t.online = s.online := by
  unfold AudioWorld.online
  rw [h.broadcast, h.state]

/-- A broadcast is created, with nothing in the buffers. -/
theorem SameWithout.startBroadcast (h : SameWithout b s t) (hC : AudioSeparate s .startBroadcast)
    (hmoves : AudioMoves s .startBroadcast s' out) :
    ∃ t', AudioMoves t .startBroadcast t' out ∧ SameWithout b s' t' := by
  have hinv := h.left.moves hC hmoves
  have hseparate := h.separate hC
  cases hmoves with
  | startBroadcast hslot =>
      have hmoves' : AudioMoves t .startBroadcast _ [] :=
        .startBroadcast (h.broadcast.trans hslot)
      have hnil' := AudioDevice.pending_eq_nil (hseparate rfl).1
      have hnil := AudioDevice.pending_eq_nil (hC rfl).1
      refine ⟨_, hmoves', hinv, h.right.moves hseparate hmoves', ?_, ?_, ?_, h.call, ?_, ?_⟩
      · rw [h.broadcasts]
      · rw [h.state, h.broadcasts]
      · rw [h.broadcasts]
      · intro _
        exact hnil'.trans hnil.symm
      · intro _
        exact hnil'

/-- A state is stored to on both sides. -/
theorem SameWithout.setState (h : SameWithout b s t) {c : ℕ} {st : State}
    (hinv : AudioInv (s.setState c st)) (hinv' : AudioInv (t.setState c st)) :
    SameWithout b (s.setState c st) (t.setState c st) where
  left := hinv
  right := hinv'
  broadcast := h.broadcast
  state := by
    show Function.update t.state c st = Function.update s.state c st
    rw [h.state]
  broadcasts := h.broadcasts
  call := h.call
  pending := h.pending
  empty := h.empty

/-- The slot is emptied on both sides. -/
theorem SameWithout.ended (h : SameWithout b s t) (hmoves : AudioMoves s .ended s' out) :
    ∃ t', AudioMoves t .ended t' out ∧ SameWithout b s' t' := by
  cases hmoves with
  | ended c hslot hst =>
      have hmoves' : AudioMoves t .ended _ [] :=
        .ended c (h.broadcast.trans hslot) (by rw [h.state]; exact hst)
      refine ⟨_, hmoves', h.left.ended hslot hst,
        h.right.ended (h.broadcast.trans hslot) (by rw [h.state]; exact hst), rfl, ?_,
        h.broadcasts, h.call, h.pending, h.empty⟩
      show Function.update t.state c .offline = Function.update s.state c .offline
      rw [h.state]

/-- A call that is not during `b` finds on both sides whether its broadcast is online. -/
theorem SameWithout.test (h : SameWithout b s t) {c : ℕ} (hc : c ≠ b)
    (hmoves : AudioMoves s (.test c) s' out) :
    ∃ t', AudioMoves t (.test c) t' out ∧ SameWithout b s' t' := by
  have hcall := h.call
  cases hmoves with
  | pass c samples n hgot honline =>
      rw [hgot, AudioCall.without_got hc] at hcall
      have honline' : (t.state c).isOnline = true := by rw [h.state]; exact honline
      -- `c` is the broadcast created last, and the buffers have the same
      have hlast := h.left.current c (h.left.online c honline)
      have hpending := h.pending (by omega)
      refine ⟨_, .pass c samples n hcall honline',
        h.setCall (h.left.pass hgot honline) (h.right.pass hcall honline') ?_⟩
      rw [h.left.ready.beginCopy_eq h.right.ready hpending]
      exact (AudioCall.without_copying hc _).symm
  | refuse c samples n hgot honline =>
      rw [hgot, AudioCall.without_got hc] at hcall
      exact ⟨_, .refuse c samples n hcall (by rw [h.state]; exact honline),
        h.setCall h.left.idle h.right.idle rfl⟩

/-- It goes through its loop on both sides: a round does the same to what is in the buffers. -/
theorem SameWithout.copy (h : SameWithout b s t) {c : ℕ} (hc : c ≠ b)
    (hmoves : AudioMoves s (.copy c) s' out) :
    ∃ t', AudioMoves t (.copy c) t' out ∧ SameWithout b s' t' := by
  have hcall := h.call
  cases hmoves with
  | leave c l hcopying hcopy =>
      rw [hcopying, AudioCall.without_copying hc] at hcall
      exact ⟨_, .leave c l hcall hcopy, h.setCall h.left.idle h.right.idle rfl⟩
  | round c l l' d chunk hcopying hcopy hround =>
      rw [hcopying, AudioCall.without_copying hc] at hcall
      obtain ⟨hlast, hloop, -⟩ := h.left.copying c l hcopying
      have hloop' := (h.right.copying c l hcall).2.1
      have hpending := h.pending (by omega)
      obtain ⟨d₁, l₁, hround₁, hloop₁, hpending₁, hdata₁⟩ := hloop.copyRound
      obtain ⟨d₂, l₂, hround₂, hloop₂, hpending₂, hdata₂⟩ := hloop'.copyRound
      have hsame := hround
      rw [hround₁, Option.some.injEq, Prod.mk.injEq, Prod.mk.injEq] at hsame
      obtain ⟨rfl, rfl, rfl⟩ := hsame
      rw [hpending] at hround₂ hpending₂ hdata₂
      have hl : l₂ = l₁ :=
        hloop₁.ext hloop₂ (hpending₂.trans hpending₁.symm) (hdata₂.trans hdata₁.symm)
      rw [hl] at hround₂
      have hmoves' : AudioMoves t (.copy c) _ _ := .round c l l₁ d₂ _ hcall hcopy hround₂
      rw [h.online] at hmoves'
      refine ⟨_, hmoves', h.left.round hcopying hround, h.right.round hcall hround₂, h.broadcast,
        h.state, h.broadcasts, ?_, ?_, ?_⟩
      · exact (AudioCall.without_copying hc l₁).symm
      · intro _
        exact hpending₂.trans hpending₁.symm
      · intro hb
        have : s.broadcasts = b + 1 := hb
        omega

/-- **Every other step** goes the same way without the audio of `b`. -/
theorem SameWithout.visible (h : SameWithout b s t) (ha : a.during b = false)
    (hC : AudioSeparate s a) (hmoves : AudioMoves s a s' out) :
    ∃ t', AudioMoves t a t' out ∧ SameWithout b s' t' := by
  have hcall := h.call
  cases hmoves with
  | startBroadcast hslot => exact h.startBroadcast hC (.startBroadcast hslot)
  | advance c st hslot hst =>
      have hslot' := h.broadcast.trans hslot
      exact ⟨_, .advance c st hslot' (by rw [h.state]; exact hst),
        h.setState (h.left.setState hslot st) (h.right.setState hslot' st)⟩
  | stop c hslot =>
      have hslot' := h.broadcast.trans hslot
      exact ⟨_, .stop c hslot',
        h.setState (h.left.setState hslot .stopping) (h.right.setState hslot' .stopping)⟩
  | ended c hslot hst => exact h.ended (.ended c hslot hst)
  | sendNone samples n hidle hslot hlength hpos hwrap =>
      rw [hidle] at hcall
      exact ⟨t, .sendNone samples n hcall (h.broadcast.trans hslot) hlength hpos hwrap, h⟩
  | send c samples n hidle hslot hlength hpos hwrap =>
      have hc : c ≠ b := by simpa [AudioAction.during] using ha
      have hmoves : AudioMoves s (.sendAudio (some c) samples n) _ [] :=
        .send c samples n hidle hslot hlength hpos hwrap
      rw [hidle] at hcall
      have hmoves' : AudioMoves t (.sendAudio (some c) samples n) _ [] :=
        .send c samples n hcall (h.broadcast.trans hslot) hlength hpos hwrap
      exact ⟨_, hmoves', h.setCall (h.left.moves hC hmoves)
        (h.right.moves (h.separate hC) hmoves') (AudioCall.without_got hc samples n).symm⟩
  | pass c samples n hgot honline =>
      exact h.test (by simpa [AudioAction.during] using ha) (.pass c samples n hgot honline)
  | refuse c samples n hgot honline =>
      exact h.test (by simpa [AudioAction.during] using ha) (.refuse c samples n hgot honline)
  | leave c l hcopying hcopy =>
      exact h.copy (by simpa [AudioAction.during] using ha) (.leave c l hcopying hcopy)
  | round c l l' d chunk hcopying hcopy hround =>
      exact h.copy (by simpa [AudioAction.during] using ha)
        (.round c l l' d chunk hcopying hcopy hround)

/-- **Unwinding**: the audio of one broadcast is hidden from the chunks of every other. -/
theorem sameWithout_unwinding (hne : b' ≠ b) :
    Machine.Unwinding isolationMachine (AudioAction.during b) AudioSeparate
      (AudioEvent.chunkOf b') (SameWithout b) := by
  constructor
  · intro s a s' out t hR hC ha hs
    exact hR.hidden hne ha hC (audioMoves_of_step hs)
  · intro s a s' out t hR hC ha hs
    obtain ⟨t', hmoves, hR'⟩ := hR.visible ha hC (audioMoves_of_step hs)
    exact ⟨t', out, hmoves.step, hR', rfl⟩

/-- The chunks that are delivered while a broadcast is online do not depend on the audio of
another one. -/
theorem chunksOf_eq {tr tr' : List (AudioWorld × AudioAction)} {es es' : List AudioEvent}
    (hne : b' ≠ b) (hrun : AudioRuns tr es s) (hrun' : AudioRuns tr' es' s')
    (hmeets : Machine.Meets AudioSeparate tr) (hmeets' : Machine.Meets AudioSeparate tr')
    (hsame : Machine.purge (AudioAction.during b) (tr.map Prod.snd) =
      Machine.purge (AudioAction.during b) (tr'.map Prod.snd)) :
    chunksOf b' es = chunksOf b' es' :=
  (sameWithout_unwinding hne).view_eq hrun hrun' hmeets hmeets' (sameWithout_init b) hsame

/-- **Run lemma**: a byte is delivered while its own broadcast is online, or none. -/
theorem own_of_delivered {tr : List (AudioWorld × AudioAction)} {es : List AudioEvent}
    (hrun : AudioRuns tr es s) (hmeets : Machine.Meets AudioSeparate tr) :
    ∀ c chunk, .delivered (some c) chunk ∈ es → ∀ x ∈ chunk, x.1 = c := by
  have h : AudioInv s ∧ ∀ c chunk, .delivered (some c) chunk ∈ es → ∀ x ∈ chunk, x.1 = c := by
    apply Machine.Run.induction_on_steps (C := AudioSeparate) (I := fun es s => AudioInv s ∧
      ∀ c chunk, .delivered (some c) chunk ∈ es → ∀ x ∈ chunk, x.1 = c) _ _ hrun hmeets
    · refine ⟨audioInv_init, ?_⟩
      intro c chunk hmem
      cases hmem
    · rintro es s a s' out ⟨hinv, hes⟩ hC hs
      have hmoves := audioMoves_of_step hs
      refine ⟨hinv.moves hC hmoves, ?_⟩
      intro c chunk hmem x hx
      rcases List.mem_append.mp hmem with hmem | hmem
      · exact hes c chunk hmem x hx
      · obtain ⟨honline, b, -, hlast, hall⟩ := hinv.delivered hmoves hmem
        have := (hinv.eq_of_online honline.symm).2
        rw [hall x hx]
        omega
  exact h.2

end

/-! ## Isolation -/

/-- **Isolation of the audio of broadcasts.**  In a run in which every broadcast is created
with the buffer empty and no audio call in its loop, no byte that was submitted during one
broadcast is delivered while another one is online; and every other such run that differs
in the audio of an earlier broadcast delivers the same chunks while a later one is online. -/
theorem audioIsolated {tr : List (AudioWorld × AudioAction)} {es : List AudioEvent}
    {s : AudioWorld} (hrun : AudioRuns tr es s) (hmeets : Machine.Meets AudioSeparate tr) :
    (∀ b chunk, .delivered (some b) chunk ∈ es → ∀ x ∈ chunk, x.1 = b) ∧
      ∀ (b b' : ℕ) (tr' : List (AudioWorld × AudioAction)) (es' : List AudioEvent)
        (s' : AudioWorld), b < b' → AudioRuns tr' es' s' → Machine.Meets AudioSeparate tr' →
        Machine.purge (AudioAction.during b) (tr.map Prod.snd) =
          Machine.purge (AudioAction.during b) (tr'.map Prod.snd) →
        chunksOf b' es = chunksOf b' es' := by
  constructor
  · exact own_of_delivered hrun hmeets
  · intro b b' tr' es' s' hlt hrun' hmeets' hsame
    exact chunksOf_eq (Nat.ne_of_gt hlt) hrun hrun' hmeets hmeets' hsame

/-- Two broadcasts, with `audio` during the first one and 480 samples during the second. -/
def twoBroadcasts (audio : List AudioAction) : List AudioAction :=
  [.startBroadcast, .advance, .advance] ++ audio ++
    [.stop, .ended, .startBroadcast, .advance, .advance,
      .sendAudio (some 1) (List.replicate 1920 9) 480, .test 1, .copy 1]

/-- A call with as many samples as the buffer has room for. -/
def fullCall : List AudioAction :=
  [.sendAudio (some 0) (List.replicate 1920 7) 480, .test 0, .copy 0, .copy 0]

/-- A call with one sample, which stays in the buffer. -/
def shortCall : List AudioAction :=
  [.sendAudio (some 0) [7, 7, 7, 7] 1, .test 0, .copy 0, .copy 0]

/-- Without its samples the first broadcast leaves the chunks of the second one as they are,
where it has filled the buffer. -/
theorem audioIsolated_twoBroadcasts :
    ∃ tr es s tr' es' s', AudioRuns tr es s ∧ AudioRuns tr' es' s' ∧ es ≠ es' ∧
      (∀ b chunk, .delivered (some b) chunk ∈ es → ∀ x ∈ chunk, x.1 = b) ∧
      chunksOf 1 es = chunksOf 1 es' := by
  have hfull : (isolationMachine.exec {} (twoBroadcasts fullCall)).any
      (fun r => r.2.length = 2) = true := by decide +kernel
  have hnone : (isolationMachine.exec {} (twoBroadcasts [])).any
      (fun r => r.2.length = 1) = true := by decide +kernel
  obtain ⟨⟨s, es⟩, hexec, hes⟩ := (Option.any_eq_true _ _).mp hfull
  obtain ⟨⟨s', es'⟩, hexec', hes'⟩ := (Option.any_eq_true _ _).mp hnone
  have hisolated := audioIsolated (.of_exec hexec) (by decide +kernel)
  refine ⟨_, es, s, _, es', s', .of_exec hexec, .of_exec hexec', ?_, hisolated.1, ?_⟩
  · intro heq
    simp only [decide_eq_true_eq] at hes hes'
    rw [heq, hes'] at hes
    cases hes
  · apply hisolated.2 0 1 _ es' s' Nat.zero_lt_one (.of_exec hexec') (by decide +kernel)
    rw [Machine.map_snd_trace hexec, Machine.map_snd_trace hexec']
    rfl

/-- One sample of a broadcast that has ended is delivered in the first chunk of the next one. -/
theorem not_audioIsolated :
    ∃ tr es s tr' es' s', AudioRuns tr es s ∧ AudioRuns tr' es' s' ∧
      Machine.purge (AudioAction.during 0) (tr.map Prod.snd) =
        Machine.purge (AudioAction.during 0) (tr'.map Prod.snd) ∧
      chunksOf 1 es ≠ chunksOf 1 es' ∧ ∃ chunk ∈ chunksOf 1 es, (0, 7) ∈ chunk := by
  have hshort : (isolationMachine.exec {} (twoBroadcasts shortCall)).any
      (fun r => (chunksOf 1 r.2).any fun chunk => chunk.contains (0, 7)) = true := by
    decide +kernel
  have hnone : (isolationMachine.exec {} (twoBroadcasts [])).any
      (fun r => (chunksOf 1 r.2).all fun chunk => !chunk.contains (0, 7)) = true := by
    decide +kernel
  obtain ⟨⟨s, es⟩, hexec, hes⟩ := (Option.any_eq_true _ _).mp hshort
  obtain ⟨⟨s', es'⟩, hexec', hes'⟩ := (Option.any_eq_true _ _).mp hnone
  obtain ⟨chunk, hchunk, hmem⟩ := List.any_eq_true.mp hes
  refine ⟨_, es, s, _, es', s', .of_exec hexec, .of_exec hexec', ?_, ?_, chunk, hchunk, ?_⟩
  · rw [Machine.map_snd_trace hexec, Machine.map_snd_trace hexec']
    rfl
  · intro heq
    have hchunk' := hchunk
    dsimp only at hchunk'
    rw [heq] at hchunk'
    have hnot := List.all_eq_true.mp hes' chunk hchunk'
    rw [hmem] at hnot
    cases hnot
  · exact List.contains_iff_mem.mp hmem

end Caff
