/-
# What the requests of a broadcast can come to

The requests a broadcast makes while it runs, with the strings of the application as bytes,
and what the network can let each of them return.  A request throws if it cannot be
serialised; otherwise there is a network for every answer that its type allows, and one for
which it throws.
-/
import Caffeine.AddFeed
import Caffeine.GraphqlRequests

namespace Caff

open Http Json Caffql Graphql

/-! ## Requests -/

/-- What the requests of a broadcast are made of, besides its title, its game and the quality of
its connection. -/
structure RequestContext where
  clientId : String
  clientType : String
  username : String
  feedId : String
  offer : String
  candidates : List IceInfo

/-- The `StartBroadcast` mutation as `startHeartbeat` reads it. -/
def startOutcome (payload : StageFields) : StartPayload :=
  { hasError := payload.error.isSome, live := payload.stage.live }

/-- A request that only tells whether it succeeded. -/
def Outcome.ofBool (succeeded : Bool) : Outcome := if succeeded then .success else .failure

/-- A request with a string of the application.  If that is not UTF-8, `dump` throws. -/
def applicationRequest (field : OperationField) (text : Bytes) (args : String → field.Arguments)
    (depth : ℕ) : Http Credentials (Option field.ResponseData) :=
  match String.fromUTF8? text.toByteArray with
  | some text => graphqlRequest field (args text) depth
  | none => lift (.error (.typeError 316))

namespace RequestContext

/-- The members of the broadcast that the requests read. -/
def fields (b : RequestContext) (gameId fullTitle : String) (quality : ConnectionQuality) :
    BroadcastFields where
  clientId := b.clientId
  clientType := b.clientType
  username := b.username
  feedId := b.feedId
  gameId := gameId
  fullTitle := fullTitle
  connectionQuality := quality

/-- The arguments of a request with a feed input: it has the game and the quality. -/
def feedArguments (b : RequestContext) (field : OperationField) (quality : ConnectionQuality)
    (gameId : String) : field.Arguments :=
  (b.fields gameId "" quality).arguments b.offer field

/-- The arguments of a request with neither. -/
def stageArguments (b : RequestContext) (field : OperationField) (fullTitle : String) :
    field.Arguments :=
  (b.fields "" fullTitle .unknown).arguments b.offer field

/-- The request of `createFeed`. -/
def addFeed (b : RequestContext) (gameId : Bytes) (quality : ConnectionQuality) (depth : ℕ) :
    Http Credentials Outcome := do
  let payload ← applicationRequest .addFeed gameId (b.feedArguments .addFeed quality) depth
  pure (.feed (payload.map feedOutcome))

/-- `updateFeed`. -/
def updateFeed (b : RequestContext) (gameId : Bytes) (quality : ConnectionQuality) (depth : ℕ) :
    Http Credentials Outcome := do
  let payload ← applicationRequest .updateFeed gameId (b.feedArguments .updateFeed quality) depth
  pure (.ofBool (payload.any fun payload => payload.error.isNone))

/-- `updateTitle`. -/
def updateTitle (b : RequestContext) (fullTitle : Bytes) (depth : ℕ) :
    Http Credentials Outcome := do
  let payload ← applicationRequest .changeStageTitle fullTitle
    (b.stageArguments .changeStageTitle) depth
  pure (.ofBool (payload.any fun payload => payload.error.isNone))

/-- The request of `startHeartbeat` that sets the stage live. -/
def startBroadcast (b : RequestContext) (fullTitle : Bytes) (depth : ℕ) :
    Http Credentials Outcome := do
  let payload ← applicationRequest .startBroadcast fullTitle
    (b.stageArguments .startBroadcast) depth
  pure (.start (payload.map startOutcome))

/-- The request that ends the stage; what it returns is not looked at. -/
def stopBroadcast (b : RequestContext) (depth : ℕ) : Http Credentials Outcome := do
  let payload ← graphqlRequest .stopBroadcast (b.stageArguments .stopBroadcast "") depth
  pure (.ofBool payload.isSome)

/-- A heartbeat. -/
def heartbeat (depth : ℕ) : Http Credentials Outcome := do
  let response ← heartbeatStream depth
  pure (.heartbeat (response.map (·.connectionQuality)))

def trickle (b : RequestContext) (depth : ℕ) : Http Credentials Outcome := do
  let succeeded ← trickleCandidates b.candidates depth
  pure (.ofBool succeeded)

def sendScreenshot (depth : ℕ) : Http Credentials Outcome := do
  let succeeded ← updateScreenshot depth
  pure (.ofBool succeeded)

end RequestContext

/-! ## Networks -/

/-- What a request meets: the outcomes of the exchanges, and the credentials it starts with.
`depth` is how far its recursion is followed. -/
structure Network where
  env : Environment
  session : Session Credentials
  depth : ℕ

/-- What a request comes to, `raised` if it throws; nothing if it recurses further than it is
followed. -/
def Network.outcome (n : Network) (request : ℕ → Http Credentials Outcome) : Option Outcome :=
  match (request n.depth n.env n.session).1 with
  | .ok o => some o
  | .error (.fault _) => some .raised
  | .error .outOfDepth => none

/-- Every request is answered with `json`. -/
def answering (json : Json) : Environment where
  clientType := []
  clientVersion := []
  outcomes _ _ := ⟨.ok, 200, []⟩
  parse _ := some json

/-- The credential has expired, and a refresh is answered with `json`. -/
def expired (json : Json) : Environment where
  clientType := []
  clientVersion := []
  outcomes e _ := if e = .refreshToken then ⟨.ok, 200, []⟩ else ⟨.ok, 401, []⟩
  parse _ := some json

/-- The credentials a request starts with. -/
def firstSession : Session Credentials := .start ⟨"", "", "", ""⟩

section

variable {T : Type} {call : AuthorizedCall T} {request : ℕ → Http Credentials T} {json : Json}

/-- The request can come to `result`. -/
def CanEnd (request : ℕ → Http Credentials T) (result : Except Json.Fault T) : Prop :=
  ∃ env depth s', request depth env firstSession = lift result env s'

/-- A request that is answered returns what the answer is read as. -/
theorem canEnd_answered {r : Retryable T}
    (h : call.Determines request (answering json) firstSession)
    (hreply : call.reply (answering json) ⟨.ok, 200, []⟩ = .ok r)
    (hretried : call.retried ⟨.ok, 200, []⟩ = false) : CanEnd request (.ok r.result) := by
  have hnot : ¬ Unauthorized (⟨.ok, 200, []⟩ : HttpOutcome) := by
    rintro ⟨-, h401⟩
    exact absurd h401 (by decide)
  have hlast : ¬ call.goesOn (answering json) firstSession 0 := by
    rw [AuthorizedCall.goesOn, goesOn_zero_iff]
    rintro (⟨hun, -⟩ | ⟨hr, -⟩)
    · exact hnot hun
    · exact absurd (hretried.symm.trans hr) Bool.false_ne_true
  obtain ⟨-, depth, hd⟩ := h 0 (fun j hj => absurd hj (Nat.not_lt_zero j)) hlast
  refine ⟨answering json, depth, call.after (answering json) firstSession (0 + 1),
    (hd depth le_rfl).trans ?_⟩
  have hresult : call.result (answering json) firstSession 0 = .ok r.result :=
    congrArg (Functor.map fun r : Retryable T => r.result)
      ((AuthorizedCall.verdict_of_answered hnot).trans hreply)
  rw [hresult]

/-- A request with an expired credential is refused, or throws, as the refresh is. -/
theorem canEnd_expired {answer : Access (Option Credentials)}
    (h : call.Determines request (expired json) firstSession)
    (hrefresh : refreshAnswer (expired json) ⟨.ok, 200, []⟩ = answer)
    (hnone : ∀ c, answer ≠ .ok (some c)) :
    CanEnd request ((fun _ => call.refused) <$> answer) := by
  have hun : Unauthorized ((expired json).outcomes call.endpoint 0) := by
    show Unauthorized (if call.endpoint = .refreshToken then _ else _)
    rw [if_neg call.endpoint_ne]
    exact ⟨rfl, rfl⟩
  have hgranted : ¬ Granted (expired json) ⟨.ok, 200, []⟩ := by
    rw [granted_iff, hrefresh]
    rintro ⟨c, hc⟩
    exact hnone c hc
  have hlast : ¬ call.goesOn (expired json) firstSession 0 := by
    rw [AuthorizedCall.goesOn, goesOn_zero_iff]
    rintro (⟨-, hg⟩ | ⟨hr, -⟩)
    · exact hgranted hg
    · exact call.replies.not_unauthorized hr hun
  obtain ⟨-, depth, hd⟩ := h 0 (fun j hj => absurd hj (Nat.not_lt_zero j)) hlast
  refine ⟨expired json, depth, call.after (expired json) firstSession (0 + 1),
    (hd depth le_rfl).trans ?_⟩
  have hresult : call.result (expired json) firstSession 0 =
      (fun _ => call.refused) <$> answer := by
    have hverdict : call.verdict (expired json) ((expired json).outcomes call.endpoint 0)
        ⟨.ok, 200, []⟩ = (fun _ => complete call.refused) <$> answer := by
      rw [AuthorizedCall.verdict_of_unauthorized hun, hrefresh]
      cases answer <;> rfl
    rw [AuthorizedCall.result]
    refine (congrArg (Functor.map fun r => r.result) hverdict).trans ?_
    cases answer <;> rfl
  rw [hresult]

/-- The document of a refresh that is refused, and of one that makes it throw. -/
def refusedRefresh : Json := .object []

def brokenRefresh : Json := .object [("errors", .null)]

theorem refreshAnswer_refusedRefresh :
    refreshAnswer (expired refusedRefresh) ⟨.ok, 200, []⟩ = .ok none := rfl

theorem exists_refreshAnswer_brokenRefresh :
    ∃ f, refreshAnswer (expired brokenRefresh) ⟨.ok, 200, []⟩ = .error f :=
  ⟨_, rfl⟩

/-- Every request can be refused, -/
theorem canEnd_refused (h : ∀ env, call.Determines request env firstSession) :
    CanEnd request (.ok call.refused) :=
  canEnd_expired (h _) refreshAnswer_refusedRefresh (by simp)

/-- and every one can throw. -/
theorem exists_canEnd_error (h : ∀ env, call.Determines request env firstSession) :
    ∃ f, CanEnd request (.error f) := by
  obtain ⟨f, hf⟩ := exists_refreshAnswer_brokenRefresh
  exact ⟨f, canEnd_expired (h _) hf (by simp)⟩

theorem CanEnd.map {result : Except Json.Fault T} {U : Type} (h : CanEnd request result)
    (f : T → U) :
    CanEnd (fun depth => do let v ← request depth; pure (f v)) (f <$> result) := by
  obtain ⟨env, depth, s', hrun⟩ := h
  refine ⟨env, depth, s', ?_⟩
  show (request depth >>= fun v => pure (f v)) env firstSession = _
  cases result with
  | ok v =>
      rw [lift_ok] at hrun
      rw [bind_apply_of_ok hrun]
      rfl
  | error f =>
      rw [lift_error] at hrun
      rw [bind_apply_of_error hrun]
      rfl

end

/-! ## GraphQL requests -/

section

variable {field : OperationField} {text : Bytes} {args : String → field.Arguments}

theorem determines_graphqlRawRequest (args : field.Arguments) (env : Environment) :
    graphqlCall.Determines (graphqlRawRequest (field.requestTexts args)) env firstSession :=
  AuthorizedCall.determines_dump OperationField.requestTexts_isUtf8

/-- A request can return whatever the server answers, -/
theorem canEnd_graphqlRequest (args : field.Arguments) (answer : Answer field.ServerData) :
    CanEnd (graphqlRequest field args) (.ok (field.answerPayload answer)) := by
  have hraw : CanEnd (graphqlRawRequest (field.requestTexts args))
      (.ok (some (field.respond answer none))) :=
    canEnd_answered (r := complete (some (field.respond answer none)))
      (determines_graphqlRawRequest args _) rfl rfl
  have h := hraw.map fun rawResponse => unpack field.response rawResponse
  rwa [← OperationField.unpack_respond answer none]

/-- and it can throw. -/
theorem exists_canEnd_graphqlRequest_error (args : field.Arguments) :
    ∃ f, CanEnd (graphqlRequest field args) (.error f) := by
  obtain ⟨f, hraw⟩ := exists_canEnd_error (determines_graphqlRawRequest args)
  exact ⟨f, hraw.map fun rawResponse => unpack field.response rawResponse⟩

theorem applicationRequest_of_isUtf8 (h : isUtf8 text = true) :
    ∃ string, applicationRequest field text args = graphqlRequest field (args string) := by
  have hvalid : text.toByteArray.IsValidUTF8 := ByteArray.validateUTF8_eq_true_iff.mp h
  refine ⟨String.fromUTF8 text.toByteArray hvalid, ?_⟩
  funext depth
  have hstring : String.fromUTF8? text.toByteArray =
      some (String.fromUTF8 text.toByteArray hvalid) := dif_pos hvalid
  rw [applicationRequest, hstring]

theorem applicationRequest_of_not_isUtf8 (h : ¬ isUtf8 text = true) (depth : ℕ) :
    applicationRequest field text args depth = lift (.error (.typeError 316)) := by
  have hnone : String.fromUTF8? text.toByteArray = none :=
    dif_neg fun hvalid => h (ByteArray.validateUTF8_eq_true_iff.mpr hvalid)
  rw [applicationRequest, hnone]

end

/-! ## Answers -/

/-- There is a network in which the request comes to `o`. -/
def CanAnswer (request : ℕ → Http Credentials Outcome) (o : Outcome) : Prop :=
  ∃ n : Network, n.outcome request = some o

section

variable {T : Type} {request : ℕ → Http Credentials T} {f : T → Outcome} {o : Outcome}

theorem canAnswer_of_ok {request : ℕ → Http Credentials Outcome} (h : CanEnd request (.ok o)) :
    CanAnswer request o := by
  obtain ⟨env, depth, s', hrun⟩ := h
  refine ⟨⟨env, firstSession, depth⟩, ?_⟩
  rw [Network.outcome, hrun, lift_ok]

theorem canAnswer_raised {request : ℕ → Http Credentials Outcome} {fault : Json.Fault}
    (h : CanEnd request (.error fault)) : CanAnswer request .raised := by
  obtain ⟨env, depth, s', hrun⟩ := h
  refine ⟨⟨env, firstSession, depth⟩, ?_⟩
  rw [Network.outcome, hrun, lift_error]

theorem canAnswer_map_ok {v : T} (h : CanEnd request (.ok v)) :
    CanAnswer (fun depth => do let v ← request depth; pure (f v)) (f v) :=
  canAnswer_of_ok (h.map f)

theorem canAnswer_map_raised (h : ∃ fault, CanEnd request (.error fault)) :
    CanAnswer (fun depth => do let v ← request depth; pure (f v)) .raised := by
  obtain ⟨fault, h⟩ := h
  exact canAnswer_raised (h.map f)

end

/-- A request made of `texts` can come to every outcome of `P`, and it can throw, which is
all it does if one of the texts is not UTF-8. -/
structure Answers (request : ℕ → Http Credentials Outcome) (texts : List Bytes)
    (P : Outcome → Prop) : Prop where
  canAnswer : texts.all isUtf8 = true → ∀ o, P o → CanAnswer request o
  raised : CanAnswer request .raised
  throws : ¬ texts.all isUtf8 = true → ∀ n : Network, n.outcome request = some .raised

/-- The request tells whether it succeeded. -/
def Outcome.IsBool (o : Outcome) : Prop := ∃ succeeded, o = .ofBool succeeded

section

variable {T : Type} {request : ℕ → Http Credentials T} {f : T → Outcome} {P : Outcome → Prop}

/-- A request with no text of the application. -/
theorem answers_of_canEnd (hok : ∀ o, P o → ∃ v, f v = o ∧ CanEnd request (.ok v))
    (herror : ∃ fault, CanEnd request (.error fault)) :
    Answers (fun depth => do let v ← request depth; pure (f v)) [] P where
  canAnswer _ o ho := by
    obtain ⟨v, rfl, hv⟩ := hok o ho
    exact canAnswer_map_ok hv
  raised := canAnswer_map_raised herror
  throws h := absurd rfl h

/-- A request with one. -/
theorem answers_application {field : OperationField} {text : Bytes}
    {args : String → field.Arguments} {f : Option field.ResponseData → Outcome}
    (hP : ∀ o, P o → ∃ answer, f (field.answerPayload answer) = o) :
    Answers (fun depth => do let p ← applicationRequest field text args depth; pure (f p))
      [text] P := by
  have hthrows : ¬ isUtf8 text = true → ∀ n : Network,
      n.outcome (fun depth => do let p ← applicationRequest field text args depth; pure (f p)) =
        some .raised := by
    intro htext n
    rw [Network.outcome, applicationRequest_of_not_isUtf8 htext]
    rfl
  refine ⟨fun htexts o ho => ?_, ?_, fun htexts => hthrows fun h => htexts (by simpa using h)⟩
  · obtain ⟨answer, rfl⟩ := hP o ho
    obtain ⟨string, hrequest⟩ :=
      @applicationRequest_of_isUtf8 field text args (by simpa using htexts)
    rw [hrequest]
    exact canAnswer_map_ok (canEnd_graphqlRequest (args string) answer)
  · by_cases htext : isUtf8 text = true
    · obtain ⟨string, hrequest⟩ := @applicationRequest_of_isUtf8 field text args htext
      rw [hrequest]
      exact canAnswer_map_raised (exists_canEnd_graphqlRequest_error (args string))
    · exact ⟨⟨answering .null, firstSession, 0⟩, hthrows htext _⟩

end

/-! ## The answers of a server -/

/-- A stage of which only this is known. -/
def bareStage (live : Bool) (broadcastId : Option String) : Server.Stage where
  id := ""
  username := ""
  title := ""
  live := live
  broadcastId := broadcastId
  controllingClient := none
  feeds := []
  others _ := .null

/-- A feed with a stream for a broadcaster at `url`, or with one for a viewer. -/
def bareFeed (url : Option String) : Server.Feed where
  id := ""
  clientId := ""
  clientType := ""
  gameId := none
  sourceConnectionQuality := ""
  capabilities := []
  role := ""
  restrictions := []
  liveHost := none
  stream :=
    match url with
    | some url => ⟨.broadcasterStream "", "", url, fun _ => .null⟩
    | none => ⟨.viewerStream "", "", "", fun _ => .null⟩
  others _ := .null

def bareError (type : String) : Server.Error := ⟨type, none, "", fun _ => .null⟩

def FeedError.typename : FeedError → String
  | .outOfCapacity => "OutOfCapacityError"
  | .other => "CdnError"

/-- An answer that `createFeed` reads as `payload`. -/
def feedAnswer : Option AddFeedPayload → Answer Server.FeedPayload
  | none => .failed [] none
  | some payload =>
      .resolved
        { type := "AddFeedPayload"
          error := payload.error.map fun error => bareError error.typename
          stage := bareStage false payload.broadcastId
          feed := bareFeed payload.streamUrl
          others := fun _ => .null }

theorem answerPayload_feedAnswer (payload : Option AddFeedPayload) :
    (OperationField.addFeed.answerPayload (feedAnswer payload)).map feedOutcome = payload := by
  rcases payload with _ | ⟨error, broadcastId, streamUrl⟩
  · rfl
  · rcases error with _ | (_ | _) <;> rcases streamUrl with _ | url <;> rfl

/-- An answer that `startHeartbeat` reads as `payload`. -/
def startAnswer : Option StartPayload → Answer Server.StagePayload
  | none => .failed [] none
  | some payload =>
      .resolved
        { type := "StartBroadcastPayload"
          error := if payload.hasError then some (bareError "CdnError") else none
          stage := bareStage payload.live none
          others := fun _ => .null }

theorem answerPayload_startAnswer (payload : Option StartPayload) :
    (OperationField.startBroadcast.answerPayload (startAnswer payload)).map startOutcome =
      payload := by
  rcases payload with _ | ⟨_ | _, live⟩ <;> rfl

/-- An answer that is read as a success, and one that is not. -/
def stageAnswer (succeeded : Bool) : Answer Server.StagePayload :=
  if succeeded then startAnswer (some ⟨false, false⟩) else .failed [] none

def updateAnswer (succeeded : Bool) : Answer Server.FeedPayload :=
  if succeeded then feedAnswer (some ⟨none, none, none⟩) else .failed [] none

/-! ## What each request can come to -/

/-- The body of the response to a heartbeat. -/
def heartbeatDocument (quality : ConnectionQuality) : Json :=
  .object
    [("connection_quality",
      match quality with
      | .good => .string "GOOD"
      | .poor => .string "POOR"
      | .unknown => .null)]

namespace RequestContext

variable {b : RequestContext} {text : Bytes} {quality : ConnectionQuality}

theorem answers_addFeed :
    Answers (b.addFeed text quality) [text] fun o => ∃ payload, o = .feed payload := by
  apply answers_application
  rintro o ⟨payload, rfl⟩
  exact ⟨feedAnswer payload, congrArg Outcome.feed (answerPayload_feedAnswer payload)⟩

theorem answers_startBroadcast :
    Answers (b.startBroadcast text) [text] fun o => ∃ payload, o = .start payload := by
  apply answers_application
  rintro o ⟨payload, rfl⟩
  exact ⟨startAnswer payload, congrArg Outcome.start (answerPayload_startAnswer payload)⟩

theorem answers_updateFeed : Answers (b.updateFeed text quality) [text] Outcome.IsBool := by
  apply answers_application
  rintro o ⟨succeeded, rfl⟩
  refine ⟨updateAnswer succeeded, ?_⟩
  cases succeeded <;> rfl

theorem answers_updateTitle : Answers (b.updateTitle text) [text] Outcome.IsBool := by
  apply answers_application
  rintro o ⟨succeeded, rfl⟩
  refine ⟨stageAnswer succeeded, ?_⟩
  cases succeeded <;> rfl

theorem answers_stopBroadcast : Answers b.stopBroadcast [] Outcome.IsBool := by
  refine answers_of_canEnd ?_ (exists_canEnd_graphqlRequest_error _)
  rintro o ⟨succeeded, rfl⟩
  refine ⟨_, ?_, @canEnd_graphqlRequest .stopBroadcast _ (stageAnswer succeeded)⟩
  cases succeeded <;> rfl

theorem answers_heartbeat : Answers heartbeat [] fun o => ∃ quality, o = .heartbeat quality := by
  refine answers_of_canEnd ?_
    (@exists_canEnd_error _ heartbeatCall _ fun _ => AuthorizedCall.determines_request)
  rintro o ⟨quality, rfl⟩
  cases quality with
  | none =>
      exact ⟨none, rfl,
        @canEnd_refused _ heartbeatCall _ fun _ => AuthorizedCall.determines_request⟩
  | some quality =>
      refine ⟨some ⟨quality⟩, rfl,
        @canEnd_answered _ heartbeatCall _ (heartbeatDocument quality) (complete (some ⟨quality⟩))
          AuthorizedCall.determines_request ?_ rfl⟩
      cases quality <;> rfl

theorem answers_sendScreenshot : Answers sendScreenshot [] Outcome.IsBool := by
  refine answers_of_canEnd ?_
    (@exists_canEnd_error _ screenshotCall _ fun _ => AuthorizedCall.determines_request)
  rintro o ⟨succeeded, rfl⟩
  refine ⟨succeeded, rfl, ?_⟩
  cases succeeded with
  | false => exact @canEnd_refused _ screenshotCall _ fun _ => AuthorizedCall.determines_request
  | true =>
      exact @canEnd_answered _ screenshotCall _ .null (complete true)
        AuthorizedCall.determines_request rfl rfl

theorem answers_trickle : Answers b.trickle (trickleTexts b.candidates) Outcome.IsBool := by
  by_cases htexts : (trickleTexts b.candidates).all isUtf8 = true
  · have hdetermines : ∀ env, trickleCall.Determines (trickleCandidates b.candidates) env
        firstSession := fun _ => AuthorizedCall.determines_dump htexts
    have h : Answers b.trickle [] Outcome.IsBool := by
      refine answers_of_canEnd ?_ (exists_canEnd_error hdetermines)
      rintro o ⟨succeeded, rfl⟩
      refine ⟨succeeded, rfl, ?_⟩
      cases succeeded with
      | false => exact canEnd_refused hdetermines
      | true =>
          exact @canEnd_answered _ trickleCall _ .null (complete true) (hdetermines _) rfl rfl
    exact ⟨fun _ => h.canAnswer rfl, h.raised, fun hnot => absurd htexts hnot⟩
  · have hthrows : ∀ n : Network, n.outcome b.trickle = some .raised := by
      intro n
      have hrun : trickleCandidates b.candidates n.depth n.env n.session =
          (.error (.fault (.typeError 316)), n.session) := by
        apply retryRequest_apply_of_error
        rw [doTrickleCandidates, dump, if_neg htexts]
        rfl
      rw [Network.outcome, trickle, bind_apply_of_error hrun]
    exact ⟨fun h => absurd h htexts, ⟨⟨answering .null, firstSession, 0⟩, hthrows _⟩,
      fun _ => hthrows⟩

end RequestContext

end Caff
