/-
# What has been agreed on when a broadcast starts

When `startedCallback` is called, WebRTC has made an offer and set it as the local description,
has gathered its candidates, and has set the answer of the server as the remote description.
The candidates have been sent once, all of them that have a text, and a server that reads the
body of the request finds them in the order in which they were gathered.
-/
import Caffeine.Negotiation

namespace Caff

open Http Json

/-! ## The body of the request -/

/-- The text of a `std::string` in a document. -/
def textOf (b : Bytes) : Access String :=
  match String.fromUTF8? b.toByteArray with
  | some text => .ok text
  | none => .error (.typeError 316)

/-- `to_json`. -/
def IceInfo.toJson (iceInfo : IceInfo) : Access Json := do
  let sdp ← textOf iceInfo.sdp
  let sdpMid ← textOf iceInfo.sdpMid
  pure (.object [("candidate", .string sdp), ("sdpMid", .string sdpMid),
    ("sdpMLineIndex", .numberInteger iceInfo.sdpMLineIndex)])

/-- The document that `doTrickleCandidates` sends. -/
def trickleBody (candidates : List IceInfo) : Access Json := do
  let list ← candidates.mapM IceInfo.toJson
  pure (.object [("ice_candidates", .array list)])

/-- An integer of a document. -/
def getInteger : Json → Access ℤ
  | .numberUnsigned n => .ok n
  | .numberInteger i => .ok i
  | _ => .error (.typeError 302)

/-- How a server reads a candidate, -/
def IceInfo.ofJson (j : Json) : Access IceInfo := do
  let sdp ← j.atKey "candidate" >>= getString
  let sdpMid ← j.atKey "sdpMid" >>= getString
  let sdpMLineIndex ← j.atKey "sdpMLineIndex" >>= getInteger
  pure ⟨toBytes sdp, toBytes sdpMid, sdpMLineIndex⟩

/-- and the document. -/
def readTrickle (j : Json) : Access (List IceInfo) :=
  j.atKey "ice_candidates" >>= getArray IceInfo.ofJson

section

variable {b : Bytes} {text : String} {candidates : List IceInfo} {iceInfo : IceInfo} {j : Json}

theorem exists_textOf (h : isUtf8 b = true) : ∃ text, textOf b = .ok text ∧ toBytes text = b := by
  have hvalid : b.toByteArray.IsValidUTF8 := ByteArray.validateUTF8_eq_true_iff.mp h
  have hstring : String.fromUTF8? b.toByteArray = some (String.fromUTF8 b.toByteArray hvalid) :=
    dif_pos hvalid
  refine ⟨String.fromUTF8 b.toByteArray hvalid, by rw [textOf, hstring], ?_⟩
  show b.toByteArray.data.toList = b
  rw [List.data_toByteArray, List.toList_toArray]

theorem textOf_of_not_isUtf8 (h : ¬ isUtf8 b = true) : textOf b = .error (.typeError 316) := by
  have hnone : String.fromUTF8? b.toByteArray = none :=
    dif_neg fun hvalid => h (ByteArray.validateUTF8_eq_true_iff.mpr hvalid)
  rw [textOf, hnone]

theorem succeeds_textOf_iff : (textOf b).Succeeds ↔ isUtf8 b = true := by
  by_cases h : isUtf8 b = true
  · obtain ⟨text, htext, -⟩ := exists_textOf h
    exact iff_of_true ⟨text, htext⟩ h
  · refine iff_of_false ?_ h
    rintro ⟨text, htext⟩
    rw [textOf_of_not_isUtf8 h] at htext
    cases htext

theorem toBytes_of_textOf (h : textOf b = .ok text) : toBytes text = b := by
  obtain ⟨text', htext', hbytes⟩ := exists_textOf (succeeds_textOf_iff.mp ⟨text, h⟩)
  rw [h, Except.ok.injEq] at htext'
  rw [htext']
  exact hbytes

/-- A candidate is read as it was written. -/
theorem ofJson_of_toJson (h : iceInfo.toJson = .ok j) : IceInfo.ofJson j = .ok iceInfo := by
  obtain ⟨sdp, hsdp, h⟩ := Except.exists_of_bind_eq_ok h
  obtain ⟨sdpMid, hmid, h⟩ := Except.exists_of_bind_eq_ok h
  cases h
  show Except.ok (IceInfo.mk (toBytes sdp) (toBytes sdpMid) iceInfo.sdpMLineIndex) = _
  rw [toBytes_of_textOf hsdp, toBytes_of_textOf hmid]

theorem mapM_ofJson_of_toJson {list : List Json} (h : candidates.mapM IceInfo.toJson = .ok list) :
    list.mapM IceInfo.ofJson = .ok candidates := by
  induction candidates generalizing list with
  | nil =>
      cases h
      rfl
  | cons candidate candidates ih =>
      rw [List.mapM_cons] at h
      obtain ⟨j, hj, h⟩ := Except.exists_of_bind_eq_ok h
      obtain ⟨rest, hrest, h⟩ := Except.exists_of_bind_eq_ok h
      cases h
      rw [List.mapM_cons, ofJson_of_toJson hj, ih hrest]
      rfl

/-- **The server reads the candidates that were sent.** -/
theorem readTrickle_of_trickleBody (h : trickleBody candidates = .ok j) :
    readTrickle j = .ok candidates := by
  obtain ⟨list, hlist, h⟩ := Except.exists_of_bind_eq_ok h
  cases h
  exact mapM_ofJson_of_toJson hlist

theorem succeeds_toJson_iff :
    iceInfo.toJson.Succeeds ↔ isUtf8 iceInfo.sdp = true ∧ isUtf8 iceInfo.sdpMid = true := by
  simp only [IceInfo.toJson, Except.succeeds_bind, Except.succeeds_pure, and_true,
    exists_and_right, ← succeeds_textOf_iff]
  rfl

/-- A document is there exactly if the request does not throw. -/
theorem succeeds_trickleBody_iff :
    (trickleBody candidates).Succeeds ↔ (trickleTexts candidates).all isUtf8 = true := by
  have hmap : (trickleBody candidates).Succeeds ↔ (candidates.mapM IceInfo.toJson).Succeeds := by
    simp only [trickleBody, Except.succeeds_bind, Except.succeeds_pure, and_true]
    rfl
  rw [hmap, Except.succeeds_mapM]
  simp [trickleTexts, succeeds_toJson_iff, List.all_flatMap]

end

/-! ## What is known behind each wait -/

/-- The candidates that WebRTC has told of and that have a text. -/
def candidatesOf (tr : List (Negotiation × NegotiationAction)) : List IceInfo :=
  tr.filterMap fun p =>
    match p.2 with
    | .iceCandidate candidate => candidate.info
    | _ => none

/-- The candidates are sent. -/
def NegotiationAction.isTrickle : NegotiationAction → Bool
  | .trickle _ => true
  | _ => false

/-- WebRTC tells of a candidate. -/
def NegotiationAction.isCandidate : NegotiationAction → Bool
  | .iceCandidate _ => true
  | _ => false

/-- WebRTC tells of no candidate once it has gathered them. -/
def ToldInTime (s : Negotiation) (a : NegotiationAction) : Prop :=
  a.isCandidate = true → s.observer.promise = .unset

instance (s : Negotiation) (a : NegotiationAction) : Decidable (ToldInTime s a) :=
  inferInstanceAs (Decidable (_ → _))

/-- What has been agreed on behind `k` waits. -/
structure Negotiated (tr : List (Negotiation × NegotiationAction)) (s : Negotiation) (k : ℕ) :
    Prop where
  offer : 2 ≤ k → ∃ sdp, s.creationObserver = .value (some ⟨"offer", some sdp⟩)
  setLocal : 3 ≤ k → s.setLocalObserver = .value true
  gathered : 4 ≤ k → s.observer.promise = .value ()
  sent : 5 ≤ k → ∃ t n, (t, .trickle n) ∈ tr ∧
    t.observer.gatheredCandidates = s.observer.gatheredCandidates ∧
    n.outcome (trickleRequest t.observer.gatheredCandidates) = some .success
  setRemote : 6 ≤ k → s.setRemoteObserver = .value true

section

variable {tr : List (Negotiation × NegotiationAction)} {s s' : Negotiation} {w : World}
  {a : NegotiationAction} {k : ℕ} {out : List Event}

theorem negotiated_of_le_one (hk : k ≤ 1) : Negotiated tr s k where
  offer h := by omega
  setLocal h := by omega
  gathered h := by omega
  sent h := by omega
  setRemote h := by omega

theorem Negotiation.creationObserver_advance {v : Option SessionDescription}
    (h : s.creationObserver = .value v) : (s.advance w).creationObserver = .value v := by
  unfold Negotiation.advance
  split <;> simp [h, Promise.make]

theorem Negotiation.setLocalObserver_advance {v : Bool}
    (h : s.setLocalObserver = .value v) : (s.advance w).setLocalObserver = .value v := by
  unfold Negotiation.advance
  split <;> simp [h, Promise.make]

theorem Negotiation.setRemoteObserver_advance {v : Bool}
    (h : s.setRemoteObserver = .value v) : (s.advance w).setRemoteObserver = .value v := by
  unfold Negotiation.advance
  split <;> simp [h, Promise.make]

/-- It stays agreed on while the broadcast goes on, -/
theorem Negotiated.advance (h : Negotiated tr s k) (p : Negotiation × NegotiationAction) :
    Negotiated (tr ++ [p]) (s.advance w) k where
  offer hk := by
    obtain ⟨sdp, hsdp⟩ := h.offer hk
    exact ⟨sdp, Negotiation.creationObserver_advance hsdp⟩
  setLocal hk := Negotiation.setLocalObserver_advance (h.setLocal hk)
  gathered hk := by
    rw [Negotiation.observer_advance]
    exact h.gathered hk
  sent hk := by
    obtain ⟨t, n, hmem, hsame, hn⟩ := h.sent hk
    rw [Negotiation.observer_advance]
    exact ⟨t, n, List.mem_append_left _ hmem, hsame, hn⟩
  setRemote hk := Negotiation.setRemoteObserver_advance (h.setRemote hk)

/-- and whatever WebRTC tells then: an observer is told once, and there are no candidates
behind the last one. -/
theorem Negotiated.moves (h : Negotiated tr s k) (htold : ToldInTime s a)
    (hmoves : NegotiationMoves s a s' out) : Negotiated (tr ++ [(s, a)]) s' k := by
  have hsent : 5 ≤ k → ∃ t n, (t, .trickle n) ∈ tr ++ [(s, a)] ∧
      t.observer.gatheredCandidates = s.observer.gatheredCandidates ∧
      n.outcome (trickleRequest t.observer.gatheredCandidates) = some .success := by
    intro hk
    obtain ⟨t, n, hmem, hsame, hn⟩ := h.sent hk
    exact ⟨t, n, List.mem_append_left _ hmem, hsame, hn⟩
  cases hmoves with
  | descriptionCreated description hunset =>
      refine ⟨fun hk => ?_, h.setLocal, h.gathered, hsent, h.setRemote⟩
      obtain ⟨sdp, hsdp⟩ := h.offer hk
      rw [hunset] at hsdp
      cases hsdp
  | localDescriptionSet succeeded hunset =>
      refine ⟨h.offer, fun hk => ?_, h.gathered, hsent, h.setRemote⟩
      rw [h.setLocal hk] at hunset
      cases hunset
  | remoteDescriptionSet succeeded hunset =>
      refine ⟨h.offer, h.setLocal, h.gathered, hsent, fun hk => ?_⟩
      rw [h.setRemote hk] at hunset
      cases hunset
  | iceCandidate candidate =>
      have hunset := htold rfl
      have hk : ¬ 4 ≤ k := by
        intro hk
        rw [h.gathered hk] at hunset
        cases hunset
      exact ⟨h.offer, h.setLocal, fun hk' => absurd hk' hk, fun hk' => absurd hk' (by omega),
        h.setRemote⟩
  | gathered hunset => exact ⟨h.offer, h.setLocal, fun _ => rfl, hsent, h.setRemote⟩
  | gathering newState => exact ⟨h.offer, h.setLocal, h.gathered, hsent, h.setRemote⟩
  | iceConnectionChange newState hnew =>
      exact ⟨h.offer, h.setLocal, h.gathered, hsent, h.setRemote⟩
  | iceConnectionFailed hpeer => exact ⟨h.offer, h.setLocal, h.gathered, hsent, h.setRemote⟩
  | world a action w hread hs => exact h.advance (s, a)

/-- A wait that the thread passes has been told what it waits for. -/
theorem Negotiation.found_of_read (hread : s.read a = some (.thread .success))
    (hfound : (s.found true).isSome = true) : ∃ parsed, s.found parsed = some .success := by
  cases a with
  | wait parsed =>
      obtain ⟨o, ho, heq⟩ := Option.map_eq_some_iff.mp hread
      exact ⟨parsed, ho.trans (congrArg some (Action.thread.inj heq))⟩
  | trickle n =>
      rw [Negotiation.read] at hread
      split at hread
      · rename_i hs
        simp [Negotiation.found, hs] at hfound
      · cases hread
  | other action =>
      rw [Negotiation.read] at hread
      split at hread
      · cases hread
      · rename_i hdecides
        rw [Option.some.inj hread] at hdecides
        exact absurd (by simp [Negotiation.decides, hfound]) hdecides
  | iceConnectionChange newState => cases newState <;> cases hread
  | _ => cases hread

/-- And the candidates were sent, where the thread goes on from there. -/
theorem Negotiation.trickle_of_read (hread : s.read a = some (.thread .success))
    (hs : s.world.thread = .stage .trickleCandidates) :
    ∃ n, a = .trickle n ∧
      n.outcome (trickleRequest s.observer.gatheredCandidates) = some .success := by
  cases a with
  | wait parsed => simp [Negotiation.read, Negotiation.found, hs] at hread
  | trickle n =>
      rw [Negotiation.read, if_pos hs] at hread
      obtain ⟨o, ho, heq⟩ := Option.map_eq_some_iff.mp hread
      exact ⟨n, rfl, ho.trans (congrArg some (Action.thread.inj heq))⟩
  | other action =>
      rw [Negotiation.read] at hread
      split at hread
      · cases hread
      · rename_i hdecides
        rw [Option.some.inj hread] at hdecides
        exact absurd (by simp [Negotiation.decides, hs]) hdecides
  | iceConnectionChange newState => cases newState <;> cases hread
  | _ => cases hread

theorem Promise.eq_value_true {p : Promise Bool}
    (h : Outcome.ofBool (p.satisfies id) = .success) : p = .value true := by
  cases p with
  | value v =>
      cases v with
      | true => rfl
      | false => cases h
  | _ => cases h

theorem exists_offer {p : Promise (Option SessionDescription)} {parsed : Bool}
    (h : Outcome.ofBool (p.satisfies (takesOffer parsed)) = .success) :
    ∃ sdp, p = .value (some ⟨"offer", some sdp⟩) := by
  have htrue : p.satisfies (takesOffer parsed) = true := by
    cases hp : p.satisfies (takesOffer parsed) with
    | true => rfl
    | false =>
        rw [hp] at h
        cases h
  cases p with
  | value v =>
      rcases v with _ | ⟨type, text⟩
      · cases htrue
      · have htake : ((type = "offer" ∧ text.isSome = true) ∧ parsed = true) := by
          simpa [Promise.satisfies, takesOffer] using htrue
        obtain ⟨⟨rfl, htext⟩, -⟩ := htake
        obtain ⟨sdp, rfl⟩ := Option.isSome_iff_exists.mp htext
        exact ⟨sdp, rfl⟩
  | _ => cases htrue

/-- **Passing a stage.**  The thread has behind it what it has waited for. -/
theorem Negotiated.pass {p : Stage} (h : Negotiated tr s s.world.thread.position)
    (hp : s.world.thread = .stage p) (hread : s.read a = some (.thread .success))
    (hnext : p.next.position = s.world.thread.position + 1) :
    Negotiated (tr ++ [(s, a)]) (s.advance w) p.next.position := by
  have hfound : (s.found true).isSome = true → ∃ parsed, s.found parsed = some .success :=
    Negotiation.found_of_read hread
  have hadvance := h.advance (w := w) (s, a)
  rw [hp] at hnext hadvance
  cases p
  case createPeerConnection => exact negotiated_of_le_one le_rfl
  case awaitOffer =>
    obtain ⟨parsed, hsuccess⟩ := hfound (by simp [Negotiation.found, hp])
    simp only [Negotiation.found, hp, Option.some.injEq] at hsuccess
    obtain ⟨sdp, hsdp⟩ := exists_offer hsuccess
    exact ⟨fun _ => ⟨sdp, Negotiation.creationObserver_advance hsdp⟩,
      fun hk => absurd hk (by decide), fun hk => absurd hk (by decide),
      fun hk => absurd hk (by decide), fun hk => absurd hk (by decide)⟩
  case setLocalDescription =>
    obtain ⟨parsed, hsuccess⟩ := hfound (by simp [Negotiation.found, hp])
    simp only [Negotiation.found, hp, Option.some.injEq] at hsuccess
    exact ⟨fun _ => hadvance.offer (by decide),
      fun _ => Negotiation.setLocalObserver_advance (Promise.eq_value_true hsuccess),
      fun hk => absurd hk (by decide), fun hk => absurd hk (by decide),
      fun hk => absurd hk (by decide)⟩
  case awaitCandidates =>
    obtain ⟨parsed, hsuccess⟩ := hfound (by simp [Negotiation.found, hp])
    simp only [Negotiation.found, hp, Option.some.injEq] at hsuccess
    have hgathered : s.observer.promise = .value () := by
      cases hpromise : s.observer.promise with
      | value v => rfl
      | _ =>
          rw [hpromise] at hsuccess
          cases hsuccess
    exact ⟨fun _ => hadvance.offer (by decide), fun _ => hadvance.setLocal (by decide),
      fun _ => by rw [Negotiation.observer_advance]; exact hgathered,
      fun hk => absurd hk (by decide), fun hk => absurd hk (by decide)⟩
  case trickleCandidates =>
    obtain ⟨n, rfl, hn⟩ := Negotiation.trickle_of_read hread hp
    refine ⟨fun _ => hadvance.offer (by decide), fun _ => hadvance.setLocal (by decide),
      fun _ => hadvance.gathered (by decide), fun _ => ⟨s, n, by simp, ?_, hn⟩,
      fun hk => absurd hk (by decide)⟩
    rw [Negotiation.observer_advance]
  case setRemoteDescription =>
    obtain ⟨parsed, hsuccess⟩ := hfound (by simp [Negotiation.found, hp])
    simp only [Negotiation.found, hp, Option.some.injEq] at hsuccess
    exact ⟨fun _ => hadvance.offer (by decide), fun _ => hadvance.setLocal (by decide),
      fun _ => hadvance.gathered (by decide), fun _ => hadvance.sent (by decide),
      fun _ => Negotiation.setRemoteObserver_advance (Promise.eq_value_true hsuccess)⟩
  all_goals cases hnext

/-- `startedCallback` is called from where it stands. -/
theorem ThreadMoves.thread_of_startedCallback {u u' : World} {o : Outcome}
    (h : ThreadMoves u o u' out) (hmem : .startedCallback ∈ out) : u.thread = .startedCallback := by
  cases h with
  | callStarted hs => exact hs
  | advance p hs hok => exact nomatch p.eq_of_mem_access hmem
  | giveUp o p error exit hs ho hg =>
      rcases List.mem_append.mp hmem with hmem | hmem
      · exact nomatch p.eq_of_mem_access hmem
      · cases List.mem_singleton.mp hmem
  | startAnswered x payload hs hserved =>
      rcases startAnswered_events u payload with ⟨h, -⟩ | ⟨h, -⟩ | ⟨h, -⟩ <;> simp [h] at hmem
  | abort hs =>
      unfold World.abortEvents at hmem
      split at hmem
      · rename_i p hp
        exact nomatch p.eq_of_mem_access hmem
      · cases List.mem_singleton.mp hmem
      · cases List.mem_singleton.mp hmem
      · cases hmem
  | _ => simp at hmem

/-- The thread does not wait there for the candidates to be sent a second time. -/
theorem ThreadMoves.position_of_trickle {u u' : World} {o : Outcome}
    (h : ThreadMoves u o u' out) (hs : u.thread = .stage .trickleCandidates) :
    5 ≤ u'.thread.position := by
  cases h with
  | advance p hp hok =>
      rw [hs, Thread.stage.injEq] at hp
      subst hp
      exact le_rfl
  | giveUp o p error exit hp ho hg =>
      rw [hs, Thread.stage.injEq] at hp
      subst hp
      cases hg
      exact (by decide : 5 ≤ Thread.finished.position)
  | abort hw => exact (by decide : 5 ≤ Thread.aborted.position)
  | _ => simp [hs] at *

/-! ## Runs -/

theorem candidatesOf_snoc (tr : List (Negotiation × NegotiationAction)) :
    candidatesOf (tr ++ [(s, a)]) = candidatesOf tr ++ candidatesOf [(s, a)] :=
  List.filterMap_append

theorem candidatesOf_singleton (candidate : IceCandidate) :
    candidatesOf [(s, .iceCandidate candidate)] = candidate.info.toList := by
  cases h : candidate.info <;> simp [candidatesOf, h]

/-- No step that the broadcast sees tells of a candidate. -/
theorem candidatesOf_of_read {action : Action} (hread : s.read a = some action) :
    candidatesOf [(s, a)] = [] := by
  cases a with
  | iceCandidate candidate => cases hread
  | _ => rfl

/-- The candidates are sent from where the thread does so. -/
theorem Negotiation.thread_of_isTrickle {action : Action} (hread : s.read a = some action)
    (ha : a.isTrickle = true) :
    s.world.thread = .stage .trickleCandidates ∧ ∃ o, action = .thread o := by
  cases a with
  | trickle n =>
      rw [Negotiation.read] at hread
      split at hread
      · rename_i hs
        obtain ⟨o, -, heq⟩ := Option.map_eq_some_iff.mp hread
        exact ⟨hs, o, heq.symm⟩
      · cases hread
  | _ => cases ha

/-- What the steps keep. -/
structure NegotiationInv (tr : List (Negotiation × NegotiationAction)) (es : List Event)
    (s : Negotiation) : Prop where
  created : s.world.thread ≠ .notCreated → s.world.startCall = .returned
  candidates : s.observer.gatheredCandidates = candidatesOf tr
  negotiated : s.world.thread.position ≤ 6 → Negotiated tr s s.world.thread.position
  started : .startedCallback ∈ es → Negotiated tr s 6
  unsent : s.world.thread.position ≤ 4 → tr.countP (fun p => p.2.isTrickle) = 0
  sentOnce : tr.countP (fun p => p.2.isTrickle) ≤ 1

/-- A step of WebRTC alone. -/
theorem NegotiationInv.of_told {es : List Event} (h : NegotiationInv tr es s)
    (htold : ToldInTime s a) (hmoves : NegotiationMoves s a s' out) (hworld : s'.world = s.world)
    (hcandidates : s'.observer.gatheredCandidates =
      s.observer.gatheredCandidates ++ candidatesOf [(s, a)])
    (hout : .startedCallback ∉ out) (ha : a.isTrickle = false) :
    NegotiationInv (tr ++ [(s, a)]) (es ++ out) s' where
  created := by
    rw [hworld]
    exact h.created
  candidates := by rw [hcandidates, h.candidates, candidatesOf_snoc]
  negotiated hk := by
    rw [hworld] at hk ⊢
    exact (h.negotiated hk).moves htold hmoves
  started hmem := by
    rcases List.mem_append.mp hmem with hmem | hmem
    · exact (h.started hmem).moves htold hmoves
    · exact absurd hmem hout
  unsent hk := by
    rw [hworld] at hk
    simp [List.countP_append, h.unsent hk, ha]
  sentOnce := by simp [List.countP_append, ha, h.sentOnce]

/-- A step that the broadcast sees. -/
theorem NegotiationInv.of_read {es : List Event} {action : Action} (h : NegotiationInv tr es s)
    (hread : s.read a = some action) (hs : s.world.step action = some (w, out)) :
    NegotiationInv (tr ++ [(s, a)]) (es ++ out) (s.advance w) := by
  have hmoves := moves_of_step hs
  have hle := hmoves.position_le h.created
  have hworld : (s.advance w).world = w := Negotiation.world_advance s w
  have htrickle : a.isTrickle = true → s.world.thread.position = 4 ∧ 5 ≤ w.thread.position := by
    intro ha
    obtain ⟨ht, o, rfl⟩ := Negotiation.thread_of_isTrickle hread ha
    exact ⟨by rw [ht]; rfl, (threadMoves_of_threadStep hs).position_of_trickle ht⟩
  refine ⟨?_, ?_, ?_, ?_, ?_, ?_⟩
  · rw [hworld]
    exact hmoves.startCall_of_thread h.created
  · rw [Negotiation.observer_advance, h.candidates, candidatesOf_snoc,
      candidatesOf_of_read hread, List.append_nil]
  · intro hk
    rw [hworld] at hk ⊢
    have hnegotiated := h.negotiated (hle.trans hk)
    rcases hmoves.position h.created with ⟨o, rfl, hthread⟩ | hsame
    · rcases hthread.position with hsame | hthrough | ⟨p, hp, rfl, hp', hnext⟩
      · rw [hsame]
        exact hnegotiated.advance (s, a)
      · omega
      · rw [hp'] at hnext ⊢
        exact hnegotiated.pass hp hread hnext
    · rw [hsame]
      exact hnegotiated.advance (s, a)
  · intro hmem
    rcases List.mem_append.mp hmem with hmem | hmem
    · exact (h.started hmem).advance (s, a)
    · rcases hmoves.cases_thread with ⟨o, rfl, hthread, -⟩ | ⟨-, hev, -⟩
      · have ht := hthread.thread_of_startedCallback hmem
        have hpos : s.world.thread.position = 6 := by
          rw [ht]
          rfl
        have hnegotiated := h.negotiated hpos.le
        rw [hpos] at hnegotiated
        exact hnegotiated.advance (s, a)
      · have hnone := hev []
        have hin : .startedCallback ∈ threadEvents ([] ++ out) :=
          (mem_threadEvents_iff rfl).mpr hmem
        rw [hnone] at hin
        cases hin
  · intro hk
    rw [hworld] at hk
    have ha : a.isTrickle = false := by
      by_contra hne
      have := htrickle (by simpa using hne)
      omega
    simp [List.countP_append, h.unsent (hle.trans hk), ha]
  · by_cases ha : a.isTrickle = true
    · simp [List.countP_append, h.unsent (htrickle ha).1.le, ha]
    · simp [List.countP_append, ha, h.sentOnce]

/-- **Step lemma.** -/
theorem NegotiationInv.moves {es : List Event} (h : NegotiationInv tr es s)
    (htold : ToldInTime s a) (hmoves : NegotiationMoves s a s' out) :
    NegotiationInv (tr ++ [(s, a)]) (es ++ out) s' := by
  cases hmoves with
  | world a action w hread hs => exact h.of_read hread hs
  | iceCandidate candidate =>
      refine h.of_told htold (.iceCandidate candidate) rfl ?_ (by simp) rfl
      rw [candidatesOf_singleton]
      show (s.observer.onIceCandidate candidate).gatheredCandidates = _
      unfold PeerConnectionObserver.onIceCandidate
      cases candidate.info <;> simp
  | descriptionCreated description hunset =>
      exact h.of_told htold (.descriptionCreated description hunset) rfl (by simp [candidatesOf])
        (by simp) rfl
  | localDescriptionSet succeeded hunset =>
      exact h.of_told htold (.localDescriptionSet succeeded hunset) rfl (by simp [candidatesOf])
        (by simp) rfl
  | remoteDescriptionSet succeeded hunset =>
      exact h.of_told htold (.remoteDescriptionSet succeeded hunset) rfl (by simp [candidatesOf])
        (by simp) rfl
  | gathered hunset =>
      exact h.of_told htold (.gathered hunset) rfl (by simp [candidatesOf]) (by simp) rfl
  | gathering newState =>
      exact h.of_told htold (.gathering newState) rfl (by simp [candidatesOf]) (by simp) rfl
  | iceConnectionChange newState hnew =>
      exact h.of_told htold (.iceConnectionChange newState hnew) rfl (by simp [candidatesOf])
        (by simp) rfl
  | iceConnectionFailed hpeer =>
      exact h.of_told htold (.iceConnectionFailed hpeer) rfl (by simp [candidatesOf]) (by simp) rfl

variable {title gameId : Bytes} {rating : Rating} {es : List Event}

theorem negotiationInv_init : NegotiationInv [] [] (.init title rating gameId) where
  created h := absurd rfl h
  candidates := rfl
  negotiated _ := negotiated_of_le_one (Nat.zero_le 1)
  started hmem := by cases hmem
  unsent _ := rfl
  sentOnce := by decide

/-- **Run lemma.** -/
theorem negotiationInv_of_run (h : negotiationMachine.Run (.init title rating gameId) tr es s)
    (htold : Machine.Meets ToldInTime tr) : NegotiationInv tr es s := by
  refine Machine.Run.induction_on_trace
    (I := fun tr es s => Machine.Meets ToldInTime tr → NegotiationInv tr es s) ?_ ?_ h htold
  · exact fun _ => negotiationInv_init
  · intro tr es s a s' out ih hs hmeets
    obtain ⟨hmeets, ha⟩ := Machine.meets_snoc.mp hmeets
    exact (ih hmeets).moves ha (negotiationMoves_of_step hs)

/-- A request for candidates that succeeds has a document. -/
theorem exists_trickleBody {candidates : List IceInfo} {n : Network}
    (h : n.outcome (trickleRequest candidates) = some .success) :
    ∃ body, trickleBody candidates = .ok body := by
  have hanswers : Answers (trickleRequest candidates) (trickleTexts candidates) Outcome.IsBool :=
    @RequestContext.answers_trickle ⟨"", "", "", "", "", candidates⟩
  refine succeeds_trickleBody_iff.mpr ?_
  by_contra hnot
  rw [hanswers.throws hnot n] at h
  cases h

/-- **The broadcast that has started is negotiated.**  If WebRTC tells of no candidate once it
has gathered them, and `startedCallback` has been called, the offer was made and set, the
candidates were gathered, and the answer was set; and one request has been made that sends the
candidates, which has succeeded with all of them that WebRTC has told of, then or since, and
that have a text. -/
theorem started_negotiated (h : negotiationMachine.Run (.init title rating gameId) tr es s)
    (htold : Machine.Meets ToldInTime tr) (hstarted : .startedCallback ∈ es) :
    (∃ sdp, s.creationObserver = .value (some ⟨"offer", some sdp⟩)) ∧
      s.setLocalObserver = .value true ∧ s.observer.promise = .value () ∧
      s.setRemoteObserver = .value true ∧ tr.countP (fun p => p.2.isTrickle) = 1 ∧
      ∃ t n body, (t, .trickle n) ∈ tr ∧ t.observer.gatheredCandidates = candidatesOf tr ∧
        n.outcome (trickleRequest t.observer.gatheredCandidates) = some .success ∧
        trickleBody t.observer.gatheredCandidates = .ok body ∧
        readTrickle body = .ok (candidatesOf tr) := by
  have hinv := negotiationInv_of_run h htold
  have hnegotiated := hinv.started hstarted
  obtain ⟨t, n, hmem, hsame, hn⟩ := hnegotiated.sent (by decide)
  obtain ⟨body, hbody⟩ := exists_trickleBody hn
  have hcandidates : t.observer.gatheredCandidates = candidatesOf tr :=
    hsame.trans hinv.candidates
  have hsent : 0 < tr.countP (fun p => p.2.isTrickle) :=
    List.countP_pos_iff.mpr ⟨(t, .trickle n), hmem, rfl⟩
  refine ⟨hnegotiated.offer (by decide), hnegotiated.setLocal (by decide),
    hnegotiated.gathered (by decide), hnegotiated.setRemote le_rfl,
    Nat.le_antisymm hinv.sentOnce hsent, t, n, body, hmem, hcandidates, hn, hbody, ?_⟩
  rw [readTrickle_of_trickleBody hbody, hcandidates]

end

/-- The steps up to `startedCallback` where WebRTC gathers two candidates, the second of which
has no text. -/
def startedActions : List NegotiationAction :=
  [.other .start, .other (.encoderInfo false)] ++ List.replicate 3 (.other (.thread .success)) ++
    [.descriptionCreated (some ⟨"offer", some [0x6f]⟩), .wait true, .localDescriptionSet true,
      .wait true, .other (.thread .success), .other (.thread .success), .other .serveThread,
      .other (.thread (.feed (some ⟨none, some "broadcast", some "url"⟩))),
      .iceCandidate ⟨some [0x63], [0x30], 0⟩, .iceCandidate ⟨none, [0x31], 1⟩,
      .other (.thread .success), .iceGatheringChange .complete, .wait true,
      .trickle ⟨answering .null, firstSession, 1⟩, .remoteDescriptionSet true, .wait true] ++
    List.replicate 3 (.other (.thread .success))

/-- What is evaluated of these steps. -/
def startedRun : Bool :=
  (negotiationMachine.exec (.init [] .none []) startedActions).any fun r =>
    Event.startedCallback ∈ r.2 ∧
      Machine.Meets ToldInTime (negotiationMachine.trace (.init [] .none []) startedActions) ∧
      candidatesOf (negotiationMachine.trace (.init [] .none []) startedActions) =
        [⟨[0x63], [0x30], 0⟩]

/-- The one with a text is sent. -/
theorem started_negotiated_twoCandidates :
    ∃ tr es s, negotiationMachine.Run (.init [] .none []) tr es s ∧
      tr.map Prod.snd = startedActions ∧ .startedCallback ∈ es ∧
      tr.countP (fun p => p.2.isTrickle) = 1 ∧
      ∃ t n body, (t, .trickle n) ∈ tr ∧
        trickleBody t.observer.gatheredCandidates = .ok body ∧
        readTrickle body = .ok [⟨[0x63], [0x30], 0⟩] := by
  have hrun : startedRun = true := by decide +kernel
  obtain ⟨⟨s, es⟩, hexec, hstarted⟩ := (Option.any_eq_true _ _).mp hrun
  obtain ⟨hmem, htold, hcandidates⟩ := of_decide_eq_true hstarted
  obtain ⟨-, -, -, -, hcount, t, n, body, htrickle, -, -, hbody, hread⟩ :=
    started_negotiated (.of_exec hexec) htold hmem
  rw [hcandidates] at hread
  exact ⟨_, es, s, .of_exec hexec, Machine.map_snd_trace hexec, hmem, hcount, t, n, body,
    htrickle, hbody, hread⟩

end Caff
