/-
# The messages of the stage subscription on the wire

The callback for messages of `GraphqlSubscription::connect`, from the text that a connection
brings.  `Realtime.lean` starts from the message that is taken out of it; here the server
sends frames, which are any texts at all.  The library does with the frames of a server what
it does with the updates of the stage and the errors that they carry, and nothing with those
that carry neither: no JSON, another type than `data`, or a payload that cannot be read.
-/
import Caffeine.StageServer
import Caffeine.Realtime

namespace Caff

open Json Graphql Caffql

/-! ## The callback -/

/-- `messageReceived`, from the text of a message (`none`: `Json::parse` throws) to the
response that is handled. -/
def messageReceived (text : Option Json) : Option (GraphqlResponse StageSubscriptionPayload) :=
  match text with
  | none => none
  | some json =>
      match json.find "type" with
      | none => none
      | some type =>
          if type.isName (some "data") then
            match json.atKey "payload" >>= OperationField.stageSubscription.response with
            | .ok response => some response
            | .error _ => none  -- `catch (std::exception const & error)`
          else none

/-- What `messageHandler` reads of a response: the error of a payload is not looked at. -/
def Message.ofResponse : GraphqlResponse StageSubscriptionPayload → Message
  | .data payload =>
      .update { feeds := payload.stage.feeds.map (·.id), live := payload.stage.live }
  | .errors list => .errors (list.map (·.message))

section

variable {text : Option Json} {response : GraphqlResponse StageSubscriptionPayload}

/-- What is handled is the payload of a message of type `data`. -/
theorem messageReceived_eq_some_iff :
    messageReceived text = some response ↔
      ∃ json payload, text = some json ∧ json.find "type" = some (.string "data") ∧
        json.find "payload" = some payload ∧
        OperationField.stageSubscription.response payload = .ok response := by
  constructor
  · intro h
    rw [messageReceived.eq_def] at h
    split at h
    · cases h
    · rename_i json
      split at h
      · cases h
      · rename_i type htype
        by_cases hname : type.isName (some "data") = true
        · rw [if_pos hname] at h
          split at h
          · rename_i response' hread
            obtain ⟨payload, hpayload, hresponse⟩ := Except.exists_of_bind_eq_ok hread
            rw [atKey_eq_ok_iff] at hpayload
            rw [Option.some.injEq] at h
            exact ⟨json, payload, rfl, htype.trans (congrArg some (isName_iff.mp hname)), hpayload,
              h ▸ hresponse⟩
          · cases h
        · rw [if_neg hname] at h
          cases h
  · rintro ⟨json, payload, rfl, htype, hpayload, hresponse⟩
    have hname : (Json.string "data").isName (some "data") = true := isName_iff.mpr rfl
    have hread : (json.atKey "payload" >>= OperationField.stageSubscription.response) =
        .ok response :=
      bind_eq_ok (atKey_eq_ok_iff.mpr hpayload) hresponse
    unfold messageReceived
    simp only [htype, hname, hread, if_true]

/-- Nothing is to be taken out of such a text: it is no JSON, its type is not `data`, or it has
no payload that can be read. -/
def CarriesNothing (text : Option Json) : Prop :=
  ∀ json payload response, text = some json → json.find "type" = some (.string "data") →
    json.find "payload" = some payload →
    OperationField.stageSubscription.response payload ≠ .ok response

theorem messageReceived_eq_none_iff : messageReceived text = none ↔ CarriesNothing text := by
  rw [Option.eq_none_iff_forall_ne_some]
  constructor
  · intro h json payload response htext htype hpayload hread
    exact h response (messageReceived_eq_some_iff.mpr
      ⟨json, payload, htext, htype, hpayload, hread⟩)
  · intro h response hsome
    obtain ⟨json, payload, htext, htype, hpayload, hread⟩ := messageReceived_eq_some_iff.mp hsome
    exact h json payload response htext htype hpayload hread

end

/-! ## The frames of the server -/

/-- What the server sends: responses to the subscription as its schema has them, responses in
any other form that can be read, and texts that carry nothing. -/
inductive ServerFrame
  | data (id : Json) (answer : Answer Server.StagePayload) (extensions : Option Json)
  | readable (json payload : Json) (response : GraphqlResponse StageSubscriptionPayload)
      (htype : json.find "type" = some (.string "data"))
      (hpayload : json.find "payload" = some payload)
      (hread : OperationField.stageSubscription.response payload = .ok response)
  | other (text : Option Json) (hnothing : CarriesNothing text)

namespace ServerFrame

def text : ServerFrame → Option Json
  | data id answer extensions =>
      some (.object
        [("id", id), ("type", .string "data"),
          ("payload", OperationField.stageSubscription.respond answer extensions)])
  | readable json _ _ _ _ _ => some json
  | other text _ => text

/-- The update of the stage, or the errors, that a frame carries. -/
def message : ServerFrame → Option Message
  | data _ (.resolved payload) _ =>
      some (.update { feeds := payload.stage.feeds.map (·.id), live := payload.stage.live })
  | data _ (.failed errors _) _ => some (.errors (errors.map (·.message)))
  | readable _ _ response _ _ _ => some (.ofResponse response)
  | other _ _ => none

/-- Every text is a frame. -/
theorem exists_frame_of_text (text : Option Json) : ∃ frame : ServerFrame, frame.text = text := by
  cases hreceived : messageReceived text with
  | none => exact ⟨.other text (messageReceived_eq_none_iff.mp hreceived), rfl⟩
  | some response =>
      obtain ⟨json, payload, rfl, htype, hpayload, hread⟩ :=
        messageReceived_eq_some_iff.mp hreceived
      exact ⟨.readable json payload response htype hpayload hread, rfl⟩

/-- A response of the schema is read as its payload. -/
theorem messageReceived_data {id : Json} {answer : Answer Server.StagePayload}
    {extensions : Option Json} {response : GraphqlResponse StageSubscriptionPayload}
    (h : OperationField.stageSubscription.response
      (OperationField.stageSubscription.respond answer extensions) = .ok response) :
    messageReceived (data id answer extensions).text = some response :=
  messageReceived_eq_some_iff.mpr ⟨_, _, rfl, rfl, rfl, h⟩

/-- **The callback takes out of a frame what it carries.** -/
theorem messageReceived_text (frame : ServerFrame) :
    (messageReceived frame.text).map Message.ofResponse = frame.message := by
  cases frame with
  | data id answer extensions =>
      cases answer with
      | resolved payload =>
          rw [messageReceived_data
            (@OperationField.response_resolved .stageSubscription payload extensions)]
          show some (Message.update ⟨(payload.stage.feeds.map Server.Feed.view).map _, _⟩) = _
          rw [List.map_map]
          rfl
      | failed errors data =>
          rw [messageReceived_data
            (@OperationField.response_failed .stageSubscription errors data extensions)]
          show some (Message.errors ((errors.map _).map _)) = _
          rw [List.map_map]
          rfl
  | readable json payload response htype hpayload hread =>
      show (messageReceived (some json)).map Message.ofResponse = some (.ofResponse response)
      rw [messageReceived_eq_some_iff.mpr ⟨json, payload, rfl, htype, hpayload, hread⟩]
      rfl
  | other text hnothing =>
      show (messageReceived text).map Message.ofResponse = none
      rw [messageReceived_eq_none_iff.mpr hnothing]
      rfl

/-- The server can send any message. -/
theorem exists_frame (m : Message) : ∃ frame : ServerFrame, frame.message = some m := by
  cases m with
  | errors list =>
      refine ⟨data .null (.failed (list.map fun message => ⟨message, []⟩) none) none, ?_⟩
      show some (Message.errors ((list.map _).map _)) = _
      rw [List.map_map]
      exact congrArg (fun list => some (Message.errors list)) (List.map_id list)
  | update u =>
      let feed : String → Server.Feed := fun id =>
        { id, clientId := "", clientType := "", gameId := none, sourceConnectionQuality := "",
          capabilities := [], role := "", restrictions := [], liveHost := none,
          stream := ⟨.viewerStream "", "", "", fun _ => .null⟩, others := fun _ => .null }
      let stage : Server.Stage :=
        { id := "", username := "", title := "", live := u.live, broadcastId := none,
          controllingClient := none, feeds := u.feeds.map feed, others := fun _ => .null }
      refine ⟨data .null (.resolved ⟨"", none, stage, fun _ => .null⟩) none, ?_⟩
      show some (Message.update ⟨(u.feeds.map feed).map _, u.live⟩) = _
      rw [List.map_map]
      exact congrArg (fun feeds => some (Message.update ⟨feeds, u.live⟩)) (List.map_id u.feeds)

end ServerFrame

/-! ## The subscription on the wire -/

/-- Frames in place of the messages of `RealtimeAction`. -/
inductive WireAction
  | frame (c : ℕ) (f : ServerFrame)
  | other (a : RealtimeAction) (hother : ∀ c m, a ≠ .message c m)

/-- The message that is taken out of a frame, if any. -/
def WireAction.read : WireAction → Option RealtimeAction
  | .frame c f => f.message.map (.message c)
  | .other a _ => some a

namespace Realtime

/-- Connection `c` brings a text. -/
def onText (s : Realtime) (c : ℕ) (text : Option Json) : Option (Realtime × List RealtimeEvent) :=
  s.onConnection c fun x =>
    if x.phase = .open then
      match messageReceived text with
      | some response =>
          some (s.callback x.subscription [received x.subscription (.ofResponse response)], [])
      | none => some (s, [])
    else none

def wireStep (s : Realtime) : WireAction → Option (Realtime × List RealtimeEvent)
  | .frame c f => s.onText c f.text
  | .other a _ => s.step a

end Realtime

/-- A broadcast with its subscriptions, and a server that sends frames. -/
def wireMachine : Machine Realtime WireAction RealtimeEvent := ⟨Realtime.wireStep⟩

theorem wireMachine_reads : Machine.Reads wireMachine realtimeMachine fun _ => WireAction.read where
  visible s a b h := by
    cases a with
    | other a hother =>
        rw [WireAction.read, Option.some.injEq] at h
        rw [← h]
        rfl
    | frame c f =>
        obtain ⟨m, hm, rfl⟩ := Option.map_eq_some_iff.mp h
        rw [← f.messageReceived_text] at hm
        obtain ⟨response, hresponse, rfl⟩ := Option.map_eq_some_iff.mp hm
        show s.onText c f.text = s.step (.message c (.ofResponse response))
        unfold Realtime.onText
        rw [hresponse]
        rfl
  silent s a s' out hread hs := by
    cases a with
    | other a hother => cases hread
    | frame c f =>
        have hm : f.message = none := Option.map_eq_none_iff.mp hread
        rw [← f.messageReceived_text, Option.map_eq_none_iff] at hm
        have hs : s.onText c f.text = some (s', out) := hs
        unfold Realtime.onText Realtime.onConnection at hs
        rw [hm] at hs
        by_cases hpending : s.pending .clientThread = []
        · rw [if_pos hpending] at hs
          obtain ⟨x, -, hx⟩ := Option.bind_eq_some_iff.mp hs
          by_cases hopen : x.phase = .open
          · rw [if_pos hopen, Option.some.injEq, Prod.mk.injEq] at hx
            exact ⟨hx.1.symm, hx.2.symm⟩
          · rw [if_neg hopen] at hx
            cases hx
        · rw [if_neg hpending] at hs
          cases hs

/-- **What the server sends is what is handled.**  The runs of a broadcast with its
subscriptions are those against a server that sends any texts, each being handled as the update
of the stage or the errors that it carries, and one that carries nothing as if it had not been
sent. -/
theorem realtimeRuns_iff_wire (feedId : String) (title : Bytes) (rating : Rating)
    (gameId : Bytes) (tr : List (Realtime × RealtimeAction)) (es : List RealtimeEvent)
    (s : Realtime) :
    RealtimeRuns feedId title rating gameId tr es s ↔
      ∃ tr', wireMachine.Run (.init feedId title rating gameId) tr' es s ∧
        Machine.readTrace (fun _ => WireAction.read) tr' = tr := by
  refine (and_iff_left fun _ _ => trivial).symm.trans
    (wireMachine_reads.run_iff (C := fun _ _ => True) fun _ b _ _ _ => iff_of_true trivial ?_)
  by_cases hmessage : ∃ c m, b = .message c m
  · obtain ⟨c, m, rfl⟩ := hmessage
    obtain ⟨frame, hframe⟩ := ServerFrame.exists_frame m
    exact ⟨.frame c frame, congrArg (Option.map (RealtimeAction.message c)) hframe⟩
  · exact ⟨.other b fun c m h => hmessage ⟨c, m, h⟩, rfl⟩

end Caff
