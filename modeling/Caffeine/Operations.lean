/-
# The operations of the stage API

The operations of `src/CaffQL.hpp` that the library executes: the payloads they read besides
that of `addFeed`, the documents they send and the `response` each of them unpacks.

* `errorSelection`, `feedSelection`, `stageSelection` : the selection sets that the documents
  repeat;
* `OperationField` : the operations, each with its `operation` and its `response`.
-/
import Caffeine.Library.Graphql
import Caffeine.CaffQL

namespace Caff.Caffql

open Json Graphql

/-! ## Payloads -/

/-- `UpdateFeedPayload` has the members of `AddFeedPayload`, read in the same order. -/
abbrev UpdateFeedPayload := AddFeedPayload

/-- The members of the payloads without a feed of their own. -/
structure StageFields where
  error : Option Error
  stage : Stage
  deriving DecidableEq, Repr

/-- The `from_json` of each of them. -/
def StageFields.fromJson (json : Json) : Access StageFields := do
  let error ← optionalMember json "error" Error.fromJson
  let stage ← getValueTo json "stage" Stage.fromJson
  pure { error, stage }

abbrev ChangeStageTitlePayload := StageFields

abbrev StartBroadcastPayload := StageFields

abbrev StopBroadcastPayload := StageFields

abbrev StageSubscriptionPayload := StageFields

/-! ## Selection sets -/

open SelectionSet

def errorSelection : SelectionSet :=
  leaf "__typename" (leaf "title" (leaf "message" nil))

def controllingClientSelection : SelectionSet :=
  leaf "clientId" (leaf "clientType" nil)

def liveHostSelection : SelectionSet :=
  leaf "__typename" (leaf "address"
    (on "LiveHosting" (leaf "volume" (leaf "ownerId" (leaf "ownerUsername" nil))) nil))

def streamSelection : SelectionSet :=
  leaf "__typename" (leaf "id" (leaf "url"
    (on "BroadcasterStream" (leaf "sdpAnswer" nil) (on "ViewerStream" (leaf "sdpOffer" nil) nil))))

def feedSelection : SelectionSet :=
  leaf "id" (leaf "clientId" (leaf "clientType" (leaf "gameId" (leaf "sourceConnectionQuality"
    (leaf "capabilities" (leaf "role" (leaf "restrictions"
      (field "liveHost" liveHostSelection (field "stream" streamSelection nil)))))))))

def stageSelection : SelectionSet :=
  leaf "id" (leaf "username" (leaf "title" (leaf "live" (leaf "broadcastId"
    (field "controllingClient" controllingClientSelection (field "feeds" feedSelection nil))))))

/-- The set of the operations on a stage. -/
def stageResultSelection : SelectionSet :=
  field "error" errorSelection (field "stage" stageSelection nil)

/-- The set of the operations on one of its feeds. -/
def feedResultSelection : SelectionSet :=
  field "error" errorSelection
    (field "stage" stageSelection (field "feed" feedSelection nil))

/-! ## Operations -/

/-- The operations that the library executes, the subscription last. -/
inductive OperationField
  | addFeed
  | updateFeed
  | changeStageTitle
  | startBroadcast
  | stopBroadcast
  | stageSubscription
  deriving DecidableEq, Repr

namespace OperationField

/-- The document of an operation. -/
def operation : OperationField → Graphql.Operation
  | addFeed =>
      { type := .mutation
        name := "AddFeed"
        variableDefinitions :=
          [("clientId", .nonNull (.named "ID")), ("clientType", .nonNull (.named "ClientType")),
            ("input", .nonNull (.named "FeedInput"))]
        field := "addFeed"
        arguments :=
          [("clientId", "clientId"), ("clientType", "clientType"), ("input", "input")]
        set := feedResultSelection
        plain := by decide }
  | updateFeed =>
      { type := .mutation
        name := "UpdateFeed"
        variableDefinitions :=
          [("clientId", .nonNull (.named "ID")), ("clientType", .nonNull (.named "ClientType")),
            ("input", .nonNull (.named "FeedInput"))]
        field := "updateFeed"
        arguments :=
          [("clientId", "clientId"), ("clientType", "clientType"), ("input", "input")]
        set := feedResultSelection
        plain := by decide }
  | changeStageTitle =>
      { type := .mutation
        name := "ChangeStageTitle"
        variableDefinitions :=
          [("clientId", .nonNull (.named "ID")), ("clientType", .nonNull (.named "ClientType")),
            ("title", .nonNull (.named "String"))]
        field := "changeStageTitle"
        arguments :=
          [("clientId", "clientId"), ("clientType", "clientType"), ("title", "title")]
        set := stageResultSelection
        plain := by decide }
  | startBroadcast =>
      { type := .mutation
        name := "StartBroadcast"
        variableDefinitions :=
          [("clientId", .nonNull (.named "ID")), ("clientType", .nonNull (.named "ClientType")),
            ("title", .named "String")]
        field := "startBroadcast"
        arguments :=
          [("clientId", "clientId"), ("clientType", "clientType"), ("title", "title")]
        set := stageResultSelection
        plain := by decide }
  | stopBroadcast =>
      { type := .mutation
        name := "StopBroadcast"
        variableDefinitions :=
          [("clientId", .nonNull (.named "ID")), ("keepLiveHostingFeeds", .named "Boolean")]
        field := "stopBroadcast"
        arguments :=
          [("clientId", "clientId"), ("keepLiveHostingFeeds", "keepLiveHostingFeeds")]
        set := stageResultSelection
        plain := by decide }
  | stageSubscription =>
      { type := .subscription
        name := "Stage"
        variableDefinitions :=
          [("clientId", .nonNull (.named "ID")), ("clientType", .nonNull (.named "ClientType")),
            ("clientTypeForMetrics", .named "String"), ("username", .nonNull (.named "String")),
            ("constrainedBaseline", .named "Boolean"),
            ("viewerStreams", .list (.nonNull (.named "StageSubscriptionViewerStreamInput"))),
            ("skipStreamAllocation", .named "Boolean")]
        field := "stage"
        arguments :=
          [("clientId", "clientId"), ("clientType", "clientType"),
            ("clientTypeForMetrics", "clientTypeForMetrics"), ("username", "username"),
            ("constrainedBaseline", "constrainedBaseline"), ("viewerStreams", "viewerStreams"),
            ("skipStreamAllocation", "skipStreamAllocation")]
        set := stageResultSelection
        plain := by decide }

/-- `OperationField::ResponseData`. -/
abbrev ResponseData : OperationField → Type
  | addFeed => AddFeedPayload
  | updateFeed => UpdateFeedPayload
  | changeStageTitle => ChangeStageTitlePayload
  | startBroadcast => StartBroadcastPayload
  | stopBroadcast => StopBroadcastPayload
  | stageSubscription => StageSubscriptionPayload

/-- `OperationField::response`. -/
def response : (field : OperationField) → Json → Access (GraphqlResponse field.ResponseData)
  | addFeed => AddFeedField.response
  | updateFeed => Caffql.response "updateFeed" AddFeedPayload.fromJson
  | changeStageTitle => Caffql.response "changeStageTitle" StageFields.fromJson
  | startBroadcast => Caffql.response "startBroadcast" StageFields.fromJson
  | stopBroadcast => Caffql.response "stopBroadcast" StageFields.fromJson
  | stageSubscription => Caffql.response "stage" StageFields.fromJson

end OperationField

end Caff.Caffql
