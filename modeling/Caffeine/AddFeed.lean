/-
# Creating the feed

`Broadcast::createFeed` on the response of its `AddFeed` request.  The payload holds the
error beside the stage and the feed, and the error is looked at once all three are read.
The schema promises no meaningful stage beside an error, and a stage or feed that cannot
be read takes the error with it.
-/
import Caffeine.Broadcast
import Caffeine.CaffQL

namespace Caff

open Json
open Caffql (unpack AddFeedField.response ErrorFields StageShape FeedShape)

/-! ## The function -/

/-- `createFeed` after its request: the broadcast with what it stored, and the answer of
the remote side or the failure it returns.  The feeds of the stage are only looked at for
the log. -/
def createFeed (s : World) (rawResponse : Option Json) : World × Except Result String :=
  if s.state ≠ .starting then (s, .error .broadcastFailed)
  else
    match unpack AddFeedField.response rawResponse with
    | none => (s, .error .broadcastFailed)
    | some payload =>
        match payload.error with
        | some (.outOfCapacityError _) => (s, .error .outOfCapacity)
        | some _ => (s, .error .broadcastFailed)
        | none =>
            match payload.stage.broadcastId with
            | none => (s, .error .broadcastFailed)
            | some id =>
                match payload.feed.stream with
                | .broadcasterStream stream =>
                    ({ s with broadcastId := some id, streamUrl := some stream.url },
                      .ok stream.sdpAnswer)
                | _ => ({ s with broadcastId := some id }, .error .broadcastFailed)

/-! ## The machine of the broadcast -/

/-- The errors as the machine tells them apart. -/
def feedError : Caffql.Error → FeedError
  | .outOfCapacityError _ => .outOfCapacity
  | _ => .other

/-- The url of a `BroadcasterStream`. -/
def broadcasterUrl : Caffql.Stream → Option String
  | .broadcasterStream stream => some stream.url
  | _ => none

/-- The payload as the machine receives it. -/
def feedOutcome (payload : Caffql.AddFeedPayload) : AddFeedPayload :=
  { error := payload.error.map feedError
    broadcastId := payload.stage.broadcastId
    streamUrl := broadcasterUrl payload.feed.stream }

/-- **The machine goes on as the function returns**: it reports the failure that the
function returns, or goes on with the answer. -/
theorem feedAnswered_eq_createFeed (s : World) (rawResponse : Option Json)
    (hstate : s.state = .starting) :
    s.feedAnswered ((unpack AddFeedField.response rawResponse).map feedOutcome) =
      match createFeed s rawResponse with
      | (s', .error error) => s'.reportThen error .finished
      | (s', .ok _) => (s'.goto (.stage .createRemoteDescription), []) := by
  have hstarting : ¬ s.state ≠ .starting := fun h => h hstate
  unfold createFeed World.feedAnswered
  rw [if_neg hstarting]
  rcases unpack AddFeedField.response rawResponse with _ | ⟨error, stage, feed⟩
  · rfl
  · rcases error with _ | error
    · unfold feedOutcome
      rcases hid : stage.broadcastId with _ | id
      · simp [hid]
      · rcases hstream : feed.stream with stream | stream | stream <;>
          simp [hid, hstream, broadcasterUrl]
    · rcases error with _ | _ | _ | _ | _ <;> rfl

/-! ## Reading the payload -/

section

variable {json data addFeed error : Json} {e : Caffql.Error} {fields : ErrorFields}

/-- An error is read from an object, which is not null. -/
theorem optionalMember_error (herror : addFeed.find "error" = some error)
    (hdecodes : Caffql.Error.fromJson error = .ok e) :
    optionalMember addFeed "error" Caffql.Error.fromJson = .ok (some e) := by
  have hnull : error ≠ .null := by
    rintro rfl
    cases hdecodes
  unfold optionalMember
  rw [herror]
  dsimp only
  rw [optionalValue_of_ne_null hnull, hdecodes]
  rfl

/-- What is left to read beside an error. -/
theorem addFeedPayload_fromJson (herror : addFeed.find "error" = some error)
    (hdecodes : Caffql.Error.fromJson error = .ok e) :
    Caffql.AddFeedPayload.fromJson addFeed =
      (getValueTo addFeed "stage" Caffql.Stage.fromJson >>= fun stage =>
        getValueTo addFeed "feed" Caffql.Feed.fromJson >>= fun feed =>
          pure { error := some e, stage, feed }) := by
  unfold Caffql.AddFeedPayload.fromJson
  rw [optionalMember_error herror hdecodes]
  rfl

/-- The payload is read exactly if the stage and the feed are, -/
theorem succeeds_addFeedPayload_iff (herror : addFeed.find "error" = some error)
    (hdecodes : Caffql.Error.fromJson error = .ok e) :
    (Caffql.AddFeedPayload.fromJson addFeed).Succeeds ↔
      addFeed.Has "stage" StageShape ∧ addFeed.Has "feed" FeedShape := by
  have hread : (Caffql.AddFeedPayload.fromJson addFeed).Succeeds ↔
      (getValueTo addFeed "stage" Caffql.Stage.fromJson).Succeeds ∧
        (getValueTo addFeed "feed" Caffql.Feed.fromJson).Succeeds ∧ True := by
    rw [addFeedPayload_fromJson herror hdecodes]
    refine Except.succeeds_bind_of_forall fun _ => Except.succeeds_bind_of_forall fun _ => ?_
    simp
  rw [hread, succeeds_getValueTo_iff (fun _ => Caffql.succeeds_stage_iff),
    succeeds_getValueTo_iff (fun _ => Caffql.succeeds_feed_iff), and_true]

/-- and then it has the error. -/
theorem addFeedPayload_error {payload : Caffql.AddFeedPayload}
    (herror : addFeed.find "error" = some error)
    (hdecodes : Caffql.Error.fromJson error = .ok e)
    (hread : Caffql.AddFeedPayload.fromJson addFeed = .ok payload) : payload.error = some e := by
  rw [addFeedPayload_fromJson herror hdecodes] at hread
  obtain ⟨stage, -, hread⟩ := Except.exists_of_bind_eq_ok hread
  obtain ⟨feed, -, hread⟩ := Except.exists_of_bind_eq_ok hread
  cases hread
  rfl

/-- **Out of capacity.**  The error is returned exactly if the stage and the feed beside it
can be read. -/
theorem createFeed_outOfCapacity_iff (s : World) (json data addFeed error : Json)
    (fields : ErrorFields) (hstate : s.state = .starting) (herrors : json.find "errors" = none)
    (hdata : json.find "data" = some data) (haddFeed : data.find "addFeed" = some addFeed)
    (herror : addFeed.find "error" = some error)
    (hdecodes : Caffql.Error.fromJson error = .ok (.outOfCapacityError fields)) :
    (createFeed s (some json)).2 = .error .outOfCapacity ↔
      addFeed.Has "stage" StageShape ∧ addFeed.Has "feed" FeedShape := by
  have hstarting : ¬ s.state ≠ .starting := fun h => h hstate
  have hunpack : ∀ payload, unpack AddFeedField.response (some json) = some payload ↔
      Caffql.AddFeedPayload.fromJson addFeed = .ok payload :=
    fun payload => Caffql.unpack_response_eq_some_iff herrors hdata haddFeed
  rw [← succeeds_addFeedPayload_iff herror hdecodes]
  unfold createFeed
  rw [if_neg hstarting]
  constructor
  · intro h
    rcases hpayload : unpack AddFeedField.response (some json) with _ | payload
    · rw [hpayload] at h
      simp at h
    · exact ⟨payload, (hunpack payload).mp hpayload⟩
  · rintro ⟨payload, hread⟩
    rw [(hunpack payload).mpr hread]
    dsimp only
    rw [addFeedPayload_error herror hdecodes hread]

/-! ### Payloads of zero values -/

def startingBroadcast : World := { World.init [] .none [] with state := .starting }

def capacityError : Json :=
  .object [("__typename", .string "OutOfCapacityError"), ("title", .null),
    ("message", .string "No more capacity")]

def emptyStage : Json :=
  .object [("id", .string ""), ("username", .string ""), ("title", .string ""),
    ("live", .boolean false), ("broadcastId", .null), ("controllingClient", .null),
    ("feeds", .array [])]

def emptyFeed (stream : Json) : Json :=
  .object [("id", .string ""), ("clientId", .string ""), ("clientType", .null),
    ("gameId", .null), ("sourceConnectionQuality", .null), ("capabilities", .array []),
    ("role", .null), ("restrictions", .array []), ("liveHost", .null), ("stream", stream)]

def emptyStream : Json :=
  .object [("__typename", .string ""), ("id", .string ""), ("url", .string "")]

/-- The `addFeed` member of a response without capacity. -/
def refusedFeed (stage feed : Json) : Json :=
  .object [("error", capacityError), ("stage", stage), ("feed", feed)]

def refusal (stage feed : Json) : Json :=
  .object [("data", .object [("addFeed", refusedFeed stage feed)])]

theorem createFeed_outOfCapacity_iff_empty :
    (createFeed startingBroadcast (some (refusal emptyStage (emptyFeed emptyStream)))).2 =
        .error .outOfCapacity ↔
      (refusedFeed emptyStage (emptyFeed emptyStream)).Has "stage" StageShape ∧
        (refusedFeed emptyStage (emptyFeed emptyStream)).Has "feed" FeedShape :=
  createFeed_outOfCapacity_iff startingBroadcast (refusal emptyStage (emptyFeed emptyStream))
    _ _ capacityError ⟨none, "No more capacity"⟩ rfl rfl rfl rfl rfl rfl

/-- The stream of a zero-valued feed is null, which is no stream, and the error is lost. -/
theorem createFeed_loses_error :
    (refusal emptyStage (emptyFeed .null)).find "errors" = none ∧
      Caffql.Error.fromJson capacityError =
        .ok (.outOfCapacityError ⟨none, "No more capacity"⟩) ∧
      (createFeed startingBroadcast (some (refusal emptyStage (emptyFeed .null)))).2 =
        .error .broadcastFailed :=
  ⟨rfl, rfl, rfl⟩

end

end Caff
