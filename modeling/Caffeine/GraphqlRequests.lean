/-
# GraphQL requests over HTTP

`graphqlRequest` of `src/RestApi.hpp` from its arguments to its result, with the retries and
the refreshes on the way, against a server that executes the operations.
-/
import Caffeine.AuthorizedRequests
import Caffeine.StageServer
import Caffeine.Requests

namespace Caff.Caffql

open Json Graphql Http

/-! ## The request -/

/-- The strings in the request document; the text of the query is ASCII. -/
def OperationField.requestTexts (field : OperationField) (args : field.Arguments) : List Bytes :=
  (field.request args).2.strings.map toBytes

/-- `graphqlRequest<OperationField>(creds, args...)`. -/
def graphqlRequest (field : OperationField) (args : field.Arguments) (depth : ℕ) :
    Http Credentials (Option field.ResponseData) := do
  let rawResponse ← graphqlRawRequest (field.requestTexts args) depth
  pure (unpack field.response rawResponse)

namespace OperationField

variable {field : OperationField} {args : field.Arguments} {env : Environment}
  {s : Session Credentials} {i : ℕ}

/-- The exchange has got a response with a status of success. -/
def Responded (o : HttpOutcome) : Prop := o.curlResult = .ok ∧ isSuccess o.responseCode = true

instance : DecidablePred Responded := fun o =>
  inferInstanceAs (Decidable (o.curlResult = .ok ∧ isSuccess o.responseCode = true))

/-- The document of such a response. -/
def responseOf (env : Environment) (o : HttpOutcome) : Option Json :=
  if Responded o then env.document o else none

/-- What a request returns, or throws, if exchange `i` is its last one. -/
def requestResult (field : OperationField) (env : Environment) (s : Session Credentials) (i : ℕ) :
    Json.Access (Option field.ResponseData) :=
  let o := env.outcomes .graphql (s.asked .graphql + i)
  if Unauthorized o then
    (fun _ => none) <$> refreshAnswer env
      (env.outcomes .refreshToken
        (s.asked .refreshToken + refreshesBefore env .graphql (s.asked .graphql) i))
  else .ok (unpack field.response (responseOf env o))

theorem requestTexts_isUtf8 : (field.requestTexts args).all isUtf8 = true := by
  rw [List.all_eq_true]
  intro text htext
  obtain ⟨string, -, rfl⟩ := List.mem_map.mp htext
  exact isUtf8_toBytes string

/-- The raw request decides what there is to unpack. -/
theorem unpack_result :
    (fun rawResponse => unpack field.response rawResponse) <$> graphqlCall.result env s i =
      field.requestResult env s i := by
  have hresult : graphqlCall.result env s i =
      (fun r => r.result) <$> graphqlCall.verdict env
        (env.outcomes .graphql (s.asked .graphql + i))
        (env.outcomes .refreshToken
          (s.asked .refreshToken + refreshesBefore env .graphql (s.asked .graphql) i)) := rfl
  rw [hresult]
  unfold requestResult
  by_cases h : Unauthorized (env.outcomes .graphql (s.asked .graphql + i))
  · rw [AuthorizedCall.verdict_of_unauthorized h, if_pos h]
    cases refreshAnswer env (env.outcomes .refreshToken
        (s.asked .refreshToken + refreshesBefore env .graphql (s.asked .graphql) i)) with
    | error f => rfl
    | ok creds => rfl
  · rw [AuthorizedCall.verdict_of_answered h, if_neg h]
    show Except.ok (unpack field.response (ite _ _ _ : Retryable (Option Json)).result) = _
    unfold responseOf
    by_cases hresponded : Responded (env.outcomes .graphql (s.asked .graphql + i))
    · rw [if_pos hresponded, if_pos (show _ ∧ _ from hresponded)]
      rfl
    · rw [if_neg hresponded, if_neg (show ¬ (_ ∧ _) from hresponded)]
      rfl

theorem graphqlRequest_apply (args : field.Arguments)
    (hbefore : ∀ j < i, graphqlCall.goesOn env s j) (hlast : ¬ graphqlCall.goesOn env s i) :
    ∃ depth, ∀ d, depth ≤ d →
      graphqlRequest field args d env s =
        lift (field.requestResult env s i) env (graphqlCall.after env s (i + 1)) := by
  obtain ⟨-, depth, hd⟩ := AuthorizedCall.determines_dump
    (@requestTexts_isUtf8 field args) i hbefore hlast
  refine ⟨depth, fun d hle => ?_⟩
  have hraw : graphqlRawRequest (field.requestTexts args) d env s = _ := hd d hle
  rw [← unpack_result, graphqlRequest, bind_apply, hraw]
  cases graphqlCall.result env s i with
  | error f => rfl
  | ok rawResponse => rfl

theorem Responded.not_unauthorized {o : HttpOutcome} (h : Responded o) : ¬ Unauthorized o := by
  rintro ⟨-, h401⟩
  have hsuccess := h.2
  rw [h401] at hsuccess
  exact absurd hsuccess (by decide)

/-- The result of a request whose last exchange has the outcome `o`, where the server has
answered the operation with `answer`; `r` is the outcome of the refresh after a status 401.
Where the document of the refresh cannot be read, the exception of its reader comes out of the
request. -/
def servedResult (field : OperationField) (answer : Answer field.ServerData) (env : Environment)
    (o r : HttpOutcome) : Json.Access (Option field.ResponseData) :=
  if Responded o then .ok (field.answerPayload answer)
  else if Unauthorized o then (fun _ => none) <$> refreshAnswer env r
  else .ok none

theorem requestResult_of_served {answer : Answer field.ServerData}
    (hserved : Responded (env.outcomes .graphql (s.asked .graphql + i)) →
      ∃ extensions, env.document (env.outcomes .graphql (s.asked .graphql + i)) =
        some (field.respond answer extensions)) :
    field.requestResult env s i =
      field.servedResult answer env (env.outcomes .graphql (s.asked .graphql + i))
        (env.outcomes .refreshToken (s.asked .refreshToken +
          refreshesBefore env .graphql (s.asked .graphql) i)) := by
  unfold requestResult servedResult responseOf
  by_cases hresponded : Responded (env.outcomes .graphql (s.asked .graphql + i))
  · obtain ⟨extensions, hdocument⟩ := hserved hresponded
    rw [if_neg hresponded.not_unauthorized, if_pos hresponded, if_pos hresponded, hdocument,
      unpack_respond]
  · by_cases h : Unauthorized (env.outcomes .graphql (s.asked .graphql + i))
    · rw [if_pos h, if_neg hresponded, if_pos h]
    · rw [if_neg h, if_neg hresponded, if_neg hresponded, if_neg h]
      rfl

/-- **A request against the server.**  Through any retries and refreshes, a request returns
the view of the payload that the server has resolved the operation to, if its last exchange
has got the response, and otherwise nothing, or it throws what the reader of the last refresh
throws. -/
theorem graphqlRequest_served (args : field.Arguments) {answer : Answer field.ServerData}
    (hbefore : ∀ j < i, graphqlCall.goesOn env s j) (hlast : ¬ graphqlCall.goesOn env s i)
    (hserved : Responded (env.outcomes .graphql (s.asked .graphql + i)) →
      ∃ extensions, env.document (env.outcomes .graphql (s.asked .graphql + i)) =
        some (field.respond answer extensions)) :
    ∃ depth, ∀ d, depth ≤ d →
      graphqlRequest field args d env s =
        lift (field.servedResult answer env (env.outcomes .graphql (s.asked .graphql + i))
            (env.outcomes .refreshToken (s.asked .refreshToken +
              refreshesBefore env .graphql (s.asked .graphql) i)))
          env (graphqlCall.after env s (i + 1)) := by
  obtain ⟨depth, hd⟩ := graphqlRequest_apply args hbefore hlast
  refine ⟨depth, fun d hle => ?_⟩
  rw [hd d hle, requestResult_of_served hserved]

end OperationField

/-! ## A refresh and a second try -/

/-- The stage after a broadcast. -/
def stoppedPayload : Server.StagePayload where
  type := "StopBroadcastPayload"
  error := none
  stage :=
    { id := "S", username := "caster", title := "", live := false, broadcastId := none,
      controllingClient := none, feeds := [], others := fun _ => .null }
  others _ := .null

/-- The credential has expired, the next exchange is lost, and then the operation is
executed. -/
def expiredThenLost : Environment where
  clientType := toBytes "OBS"
  clientVersion := toBytes "24.0"
  outcomes e k :=
    if e = .refreshToken then ⟨.ok, 200, grantedBody⟩
    else if k = 0 then ⟨.ok, 401, []⟩
    else if k = 1 then ⟨.couldntConnect, 0, []⟩
    else ⟨.ok, 200, []⟩
  parse body :=
    if body = grantedBody then some grantedDocument
    else some (OperationField.stopBroadcast.respond (.resolved stoppedPayload) none)

theorem goesOn_expiredThenLost {j : ℕ} (hj : j < 2) :
    graphqlCall.goesOn expiredThenLost (.start ⟨"A", "R", "C", "D"⟩) j := by
  have hparse : expiredThenLost.document ⟨.ok, 200, grantedBody⟩ = some grantedDocument := by
    simp only [expiredThenLost, Environment.document, if_true]
  have hgranted : ∀ k, Granted expiredThenLost (expiredThenLost.outcomes .refreshToken k) := by
    intro k
    refine ⟨rfl, (by decide : (200 : ℤ) ≠ 401), grantedDocument, _, hparse, rfl, rfl, ?_⟩
    exact ⟨⟨_, rfl, _, rfl⟩, ⟨_, rfl, _, rfl⟩, ⟨_, rfl, _, rfl⟩, _, rfl, _, rfl⟩
  rcases j with _ | _ | j
  · exact .inl ⟨⟨rfl, rfl⟩, hgranted _⟩
  · exact .inr (by decide)
  · omega

theorem graphqlRequest_served_expiredThenLost :
    ∃ depth, ∀ d, depth ≤ d →
      graphqlRequest .stopBroadcast ⟨"C", none⟩ d expiredThenLost
          (.start ⟨"A", "R", "C", "D"⟩) =
        (.ok (some stoppedPayload.view),
          graphqlCall.after expiredThenLost (.start ⟨"A", "R", "C", "D"⟩) 3) := by
  have hlast : ¬ graphqlCall.goesOn expiredThenLost (.start ⟨"A", "R", "C", "D"⟩) 2 := by
    rintro (⟨⟨-, h401⟩, -⟩ | ⟨hretried, -⟩)
    · exact absurd h401 (by decide)
    · exact absurd hretried (by decide)
  exact @OperationField.graphqlRequest_served .stopBroadcast expiredThenLost _ 2 ⟨"C", none⟩
    (.resolved stoppedPayload) (fun j hj => goesOn_expiredThenLost hj) hlast
    fun _ => ⟨none, rfl⟩

end Caff.Caffql
