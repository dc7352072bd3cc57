/-
# The variables of the operations

The input types of `src/CaffQL.hpp` with their `to_json` overloads, and the `request` of each
operation.  An enumerator that is not known is written as null, which the server takes for an
optional input as if nothing had been given, and refuses anywhere else.
-/
import Caffeine.Operations
import Caffeine.SourceQuality

namespace Caff.Caffql

open Json Graphql

/-! ## Input types -/

/-- `to_json` of an optional. -/
def optionalToJson {α : Type} (toJson : α → Json) : Option α → Json
  | none => .null
  | some value => toJson value

/-- `GameInput`. -/
structure GameInput where
  id : Option String
  deriving DecidableEq, Repr

/-- `to_json` of the input. -/
def GameInput.toJson (value : GameInput) : Json :=
  .object [("id", optionalToJson .string value.id)]

/-- `ViewerStreamInput`. -/
structure ViewerStreamInput where
  id : String
  url : String
  sdpOffer : String
  deriving DecidableEq, Repr

/-- `to_json` of the input. -/
def ViewerStreamInput.toJson (value : ViewerStreamInput) : Json :=
  .object
    [("id", .string value.id), ("url", .string value.url), ("sdpOffer", .string value.sdpOffer)]

/-- `FeedInput`: what is to be changed of a feed. -/
structure FeedInput where
  id : String
  game : Option GameInput := none
  role : Option Role := none
  volume : Option ℚ := none
  sourceConnectionQuality : Option SourceConnectionQuality := none
  capabilities : Option (List Capability) := none
  liveHostable : Option Bool := none
  liveHostingAddress : Option String := none
  sdpOffer : Option String := none
  viewerStream : Option ViewerStreamInput := none
  deriving DecidableEq, Repr

/-- `to_json` of the input: all members are written, null for those not given. -/
def FeedInput.toJson (value : FeedInput) : Json :=
  .object
    [("id", .string value.id),
      ("game", optionalToJson GameInput.toJson value.game),
      ("role", optionalToJson Role.table.toJson value.role),
      ("volume", optionalToJson .numberFloat value.volume),
      ("sourceConnectionQuality",
        optionalToJson SourceConnectionQuality.table.toJson value.sourceConnectionQuality),
      ("capabilities",
        optionalToJson (fun list => .array (list.map Capability.table.toJson))
          value.capabilities),
      ("liveHostable", optionalToJson .boolean value.liveHostable),
      ("liveHostingAddress", optionalToJson .string value.liveHostingAddress),
      ("sdpOffer", optionalToJson .string value.sdpOffer),
      ("viewerStream", optionalToJson ViewerStreamInput.toJson value.viewerStream)]

/-- `StageSubscriptionViewerStreamInput`. -/
structure StageSubscriptionViewerStreamInput where
  feedId : String
  viewerStream : ViewerStreamInput
  deriving DecidableEq, Repr

/-- `to_json` of the input. -/
def StageSubscriptionViewerStreamInput.toJson (value : StageSubscriptionViewerStreamInput) :
    Json :=
  .object
    [("feedId", .string value.feedId), ("viewerStream", value.viewerStream.toJson)]

/-! ## Requests -/

/-- The arguments of `addFeed` and `updateFeed`. -/
structure FeedArguments where
  clientId : String
  clientType : ClientType
  input : FeedInput
  deriving DecidableEq, Repr

/-- The arguments of `changeStageTitle`, -/
structure ChangeStageTitleArguments where
  clientId : String
  clientType : ClientType
  title : String
  deriving DecidableEq, Repr

/-- of `startBroadcast`, -/
structure StartBroadcastArguments where
  clientId : String
  clientType : ClientType
  title : Option String
  deriving DecidableEq, Repr

/-- of `stopBroadcast` -/
structure StopBroadcastArguments where
  clientId : String
  keepLiveHostingFeeds : Option Bool
  deriving DecidableEq, Repr

/-- and of the subscription. -/
structure StageSubscriptionArguments where
  clientId : String
  clientType : ClientType
  clientTypeForMetrics : Option String
  username : String
  constrainedBaseline : Option Bool
  viewerStreams : Option (List StageSubscriptionViewerStreamInput)
  skipStreamAllocation : Option Bool
  deriving DecidableEq, Repr

namespace OperationField

/-- The arguments of `OperationField::request`. -/
abbrev Arguments : OperationField → Type
  | addFeed | updateFeed => FeedArguments
  | changeStageTitle => ChangeStageTitleArguments
  | startBroadcast => StartBroadcastArguments
  | stopBroadcast => StopBroadcastArguments
  | stageSubscription => StageSubscriptionArguments

/-- The members of `variables`. -/
def requestVariables : (field : OperationField) → field.Arguments → List (String × Json)
  | addFeed, args | updateFeed, args =>
      [("clientId", .string args.clientId),
        ("clientType", ClientType.table.toJson args.clientType),
        ("input", args.input.toJson)]
  | changeStageTitle, args =>
      [("clientId", .string args.clientId),
        ("clientType", ClientType.table.toJson args.clientType),
        ("title", .string args.title)]
  | startBroadcast, args =>
      [("clientId", .string args.clientId),
        ("clientType", ClientType.table.toJson args.clientType),
        ("title", optionalToJson .string args.title)]
  | stopBroadcast, args =>
      [("clientId", .string args.clientId),
        ("keepLiveHostingFeeds", optionalToJson .boolean args.keepLiveHostingFeeds)]
  | stageSubscription, args =>
      [("clientId", .string args.clientId),
        ("clientType", ClientType.table.toJson args.clientType),
        ("clientTypeForMetrics", optionalToJson .string args.clientTypeForMetrics),
        ("username", .string args.username),
        ("constrainedBaseline", optionalToJson .boolean args.constrainedBaseline),
        ("viewerStreams",
          optionalToJson
            (fun list => .array (list.map StageSubscriptionViewerStreamInput.toJson))
            args.viewerStreams),
        ("skipStreamAllocation", optionalToJson .boolean args.skipStreamAllocation)]

/-- `OperationField::request`: the `query` and the `variables`. -/
def request (field : OperationField) (args : field.Arguments) : Graphql.Operation × Json :=
  (field.operation, .object (field.requestVariables args))

end OperationField

/-! ## What the server takes -/

/-- The input types of the schema as the generated types render them: an optional can be
null, and nothing else. -/
def schema : String → Option InputType
  | "ID" | "String" => some (.scalar IsString)
  | "Boolean" => some (.scalar IsBool)
  | "Float" => some (.scalar IsNumber)
  | "ClientType" => some (.enum ["WEB", "MOBILE", "CAPTURE"])
  | "Role" => some (.enum ["PRIMARY", "SECONDARY"])
  | "SourceConnectionQuality" => some (.enum ["GOOD", "POOR"])
  | "Capability" => some (.enum ["AUDIO", "VIDEO"])
  | "GameInput" => some (.input [("id", .named "ID")])
  | "ViewerStreamInput" =>
      some (.input
        [("id", .nonNull (.named "ID")), ("url", .nonNull (.named "String")),
          ("sdpOffer", .nonNull (.named "String"))])
  | "FeedInput" =>
      some (.input
        [("id", .nonNull (.named "ID")), ("game", .named "GameInput"), ("role", .named "Role"),
          ("volume", .named "Float"),
          ("sourceConnectionQuality", .named "SourceConnectionQuality"),
          ("capabilities", .list (.nonNull (.named "Capability"))),
          ("liveHostable", .named "Boolean"), ("liveHostingAddress", .named "ID"),
          ("sdpOffer", .named "String"), ("viewerStream", .named "ViewerStreamInput")])
  | "StageSubscriptionViewerStreamInput" =>
      some (.input
        [("feedId", .nonNull (.named "ID")),
          ("viewerStream", .nonNull (.named "ViewerStreamInput"))])
  | _ => none

section

variable {text : String}

/-- Text is taken as a string -/
theorem accepts_string (text : String) : Accepts schema (.named "String") (.string text) :=
  (accepts_scalar_iff rfl).mpr (.inr ⟨text, rfl⟩)

/-- and as an identifier. -/
theorem accepts_id (id : String) : Accepts schema (.named "ID") (.string id) :=
  (accepts_scalar_iff rfl).mpr (.inr ⟨id, rfl⟩)

/-- A truth value is taken, -/
theorem accepts_boolean (b : Bool) : Accepts schema (.named "Boolean") (.boolean b) :=
  (accepts_scalar_iff rfl).mpr (.inr ⟨b, rfl⟩)

/-- and so is a number. -/
theorem accepts_float (q : ℚ) : Accepts schema (.named "Float") (.numberFloat q) :=
  (accepts_scalar_iff rfl).mpr (.inr trivial)

/-- An optional argument of a type that can be null. -/
theorem accepts_optionalToJson {α : Type} {type : TypeRef} {toJson : α → Json} (value : Option α)
    (h : ∀ a, Accepts schema type (toJson a)) (hnullable : type.IsNullable) :
    Accepts schema type (optionalToJson toJson value) := by
  cases value with
  | none => exact .null hnullable
  | some a => exact h a

/-- Every enumerator is taken where null is, -/
theorem accepts_role (role : Role) : Accepts schema (.named "Role") (Role.table.toJson role) := by
  rw [accepts_enum_iff rfl]
  cases role with
  | primary => exact .inr ⟨"PRIMARY", by decide, rfl⟩
  | secondary => exact .inr ⟨"SECONDARY", by decide, rfl⟩
  | unknown => exact .inl rfl

/-- as the role and the quality are, -/
theorem accepts_sourceConnectionQuality (quality : SourceConnectionQuality) :
    Accepts schema (.named "SourceConnectionQuality")
      (SourceConnectionQuality.table.toJson quality) := by
  rw [accepts_enum_iff rfl]
  cases quality with
  | good => exact .inr ⟨"GOOD", by decide, rfl⟩
  | poor => exact .inr ⟨"POOR", by decide, rfl⟩
  | unknown => exact .inl rfl

/-- and the known ones anywhere. -/
theorem accepts_clientType_iff (clientType : ClientType) :
    Accepts schema (.nonNull (.named "ClientType")) (ClientType.table.toJson clientType) ↔
      clientType ≠ .unknown := by
  rw [accepts_nonNull_iff, accepts_enum_iff rfl]
  cases clientType with
  | unknown => simp [EnumTable.toJson, ClientType.table, EnumTable.pairs, Json.ofName]
  | _ => simp [EnumTable.toJson, ClientType.table, EnumTable.pairs, Json.ofName]

/-- A capability stands in a list, in which nothing can be null. -/
theorem accepts_capability_iff (capability : Capability) :
    Accepts schema (.nonNull (.named "Capability")) (Capability.table.toJson capability) ↔
      capability ≠ .unknown := by
  rw [accepts_nonNull_iff, accepts_enum_iff rfl]
  cases capability with
  | unknown => simp [EnumTable.toJson, Capability.table, EnumTable.pairs, Json.ofName]
  | _ => simp [EnumTable.toJson, Capability.table, EnumTable.pairs, Json.ofName]

/-- An input with all the fields of its type is taken field by field. -/
theorem accepts_gameInput (value : GameInput) :
    Accepts schema (.named "GameInput") value.toJson := by
  rw [GameInput.toJson, accepts_object_iff rfl, givenAs_iff_of_names rfl (by decide)]
  exact .cons (accepts_optionalToJson value.id accepts_id trivial) .nil

/-- So is an input that cannot be null, -/
theorem accepts_viewerStreamInput (value : ViewerStreamInput) :
    Accepts schema (.nonNull (.named "ViewerStreamInput")) value.toJson := by
  rw [accepts_nonNull_iff, ViewerStreamInput.toJson, accepts_object_iff rfl,
    givenAs_iff_of_names rfl (by decide)]
  refine ⟨Json.noConfusion, .cons ?_ (.cons ?_ (.cons ?_ .nil))⟩
  · exact .nonNull Json.noConfusion (accepts_id value.id)
  · exact .nonNull Json.noConfusion (accepts_string value.url)
  · exact .nonNull Json.noConfusion (accepts_string value.sdpOffer)

/-- and one with another input in it. -/
theorem accepts_stageSubscriptionViewerStreamInput (value : StageSubscriptionViewerStreamInput) :
    Accepts schema (.nonNull (.named "StageSubscriptionViewerStreamInput")) value.toJson := by
  rw [accepts_nonNull_iff, StageSubscriptionViewerStreamInput.toJson,
    accepts_object_iff rfl, givenAs_iff_of_names rfl (by decide)]
  refine ⟨Json.noConfusion, .cons ?_ (.cons ?_ .nil)⟩
  · exact .nonNull Json.noConfusion (accepts_id value.feedId)
  · exact accepts_viewerStreamInput value.viewerStream

/-- The capabilities of the input are known.  The role and the connection quality are optional,
and one that is not known is written as null. -/
def FeedInput.Known (value : FeedInput) : Prop :=
  ∀ list, value.capabilities = some list → .unknown ∉ list

/-- A list of capabilities is taken exactly if all of them are known. -/
theorem accepts_capabilities_iff (capabilities : Option (List Capability)) :
    Accepts schema (.list (.nonNull (.named "Capability")))
        (optionalToJson (fun list => .array (list.map Capability.table.toJson)) capabilities) ↔
      ∀ list, capabilities = some list → .unknown ∉ list := by
  cases capabilities with
  | none => simp [optionalToJson]
  | some list =>
      show Accepts schema _ (.array (list.map Capability.table.toJson)) ↔ _
      rw [accepts_list_iff]
      constructor
      · rintro (h | ⟨elements, h, haccepts⟩) list' heq hunknown
        · cases h
        · rw [Json.array.injEq] at h
          rw [Option.some.injEq] at heq
          rw [← heq] at hunknown
          rw [← h] at haccepts
          have hcapability := haccepts _ (List.mem_map_of_mem hunknown)
          exact (accepts_capability_iff _).mp hcapability rfl
      · intro h
        refine .inr ⟨_, rfl, fun json hjson => ?_⟩
        obtain ⟨capability, hmem, rfl⟩ := List.mem_map.mp hjson
        exact (accepts_capability_iff _).mpr fun heq => h list rfl (heq ▸ hmem)

/-- **A feed input** is taken exactly if its capabilities are known. -/
theorem accepts_feedInput_iff (value : FeedInput) :
    Accepts schema (.nonNull (.named "FeedInput")) value.toJson ↔ value.Known := by
  rw [accepts_nonNull_iff, FeedInput.toJson, accepts_object_iff rfl,
    givenAs_iff_of_names rfl (by decide)]
  simp only [List.forall₂_cons, List.forall₂_nil_left_iff]
  have hid : Accepts schema (.nonNull (.named "ID")) (.string value.id) :=
    .nonNull Json.noConfusion (accepts_id value.id)
  have hgame := accepts_optionalToJson value.game accepts_gameInput trivial
  have hrole := accepts_optionalToJson value.role accepts_role trivial
  have hvolume := accepts_optionalToJson value.volume accepts_float trivial
  have hquality := accepts_optionalToJson value.sourceConnectionQuality
    accepts_sourceConnectionQuality trivial
  have hhostable := accepts_optionalToJson value.liveHostable accepts_boolean trivial
  have haddress := accepts_optionalToJson value.liveHostingAddress accepts_id trivial
  have hoffer := accepts_optionalToJson value.sdpOffer accepts_string trivial
  have hstream : Accepts schema (.named "ViewerStreamInput")
      (optionalToJson ViewerStreamInput.toJson value.viewerStream) :=
    accepts_optionalToJson value.viewerStream
      (fun stream => (accepts_nonNull_iff.mp (accepts_viewerStreamInput stream)).2) trivial
  rw [FeedInput.Known, ← accepts_capabilities_iff]
  constructor
  · rintro ⟨-, -, -, -, -, -, hcapabilities, -⟩
    exact hcapabilities
  · intro hcapabilities
    exact ⟨Json.noConfusion, hid, hgame, hrole, hvolume, hquality, hcapabilities, hhostable,
      haddress, hoffer, hstream, trivial⟩

end

namespace OperationField

/-- The enumerators among the arguments that are not optional are known: the client type, and
the capabilities of a feed input. -/
def Known : (field : OperationField) → field.Arguments → Prop
  | addFeed, args | updateFeed, args => args.clientType ≠ .unknown ∧ args.input.Known
  | changeStageTitle, args => args.clientType ≠ .unknown
  | startBroadcast, args => args.clientType ≠ .unknown
  | stopBroadcast, _ => True
  | stageSubscription, args => args.clientType ≠ .unknown

/-- The arguments of every operation are given by its variables, and all of these are used. -/
theorem argumentsDefined_operation (field : OperationField) :
    field.operation.ArgumentsDefined := by
  cases field with
  | _ => decide

/-- The variables of a request are those that its document declares, in their order, -/
theorem names_requestVariables (field : OperationField) (args : field.Arguments) :
    (field.requestVariables args).map Prod.fst =
      field.operation.variableDefinitions.map Prod.fst := by
  cases field with
  | _ => rfl

/-- and none of them is declared twice. -/
theorem variableDefinitions_nodup (field : OperationField) :
    (field.operation.variableDefinitions.map Prod.fst).Nodup := by
  cases field with
  | _ => decide

/-- The client identifier cannot be null, -/
theorem accepts_clientId (clientId : String) :
    Accepts schema (.nonNull (.named "ID")) (.string clientId) :=
  .nonNull Json.noConfusion (accepts_id clientId)

/-- nor can a title, -/
theorem accepts_text (text : String) :
    Accepts schema (.nonNull (.named "String")) (.string text) :=
  .nonNull Json.noConfusion (accepts_string text)

/-- nor a stream in a list. -/
theorem accepts_viewerStreams (list : List StageSubscriptionViewerStreamInput) :
    Accepts schema (.list (.nonNull (.named "StageSubscriptionViewerStreamInput")))
      (.array (list.map StageSubscriptionViewerStreamInput.toJson)) := by
  apply Accepts.list
  intro json hjson
  obtain ⟨value, -, rfl⟩ := List.mem_map.mp hjson
  exact accepts_stageSubscriptionViewerStreamInput value

/-- The variables have values of their types exactly if the enumerators are known. -/
theorem requestVariables_accepted_iff (field : OperationField) (args : field.Arguments) :
    GivenAs schema field.operation.variableDefinitions (field.requestVariables args) ↔
      field.Known args := by
  rw [givenAs_iff_of_names (names_requestVariables field args) (variableDefinitions_nodup field)]
  cases field with
  | addFeed | updateFeed =>
      show List.Forall₂ _ [_, _, _] [_, _, _] ↔ _
      simp only [List.forall₂_cons, List.forall₂_nil_left_iff, and_true]
      rw [accepts_clientType_iff, accepts_feedInput_iff]
      exact and_iff_right (accepts_clientId args.clientId)
  | changeStageTitle =>
      show List.Forall₂ _ [_, _, _] [_, _, _] ↔ _
      simp only [List.forall₂_cons, List.forall₂_nil_left_iff, and_true]
      rw [accepts_clientType_iff, and_iff_right (accepts_clientId args.clientId)]
      exact and_iff_left (accepts_text args.title)
  | startBroadcast =>
      have htitle := accepts_optionalToJson args.title accepts_string trivial
      show List.Forall₂ _ [_, _, _] [_, _, _] ↔ _
      simp only [List.forall₂_cons, List.forall₂_nil_left_iff, and_true]
      rw [accepts_clientType_iff, and_iff_right (accepts_clientId args.clientId)]
      exact and_iff_left htitle
  | stopBroadcast =>
      have hkeep := accepts_optionalToJson args.keepLiveHostingFeeds accepts_boolean trivial
      exact iff_of_true (.cons (accepts_clientId args.clientId) (.cons hkeep .nil)) trivial
  | stageSubscription =>
      have hmetrics := accepts_optionalToJson args.clientTypeForMetrics accepts_string trivial
      have hbaseline := accepts_optionalToJson args.constrainedBaseline accepts_boolean trivial
      have hstreams := accepts_optionalToJson args.viewerStreams accepts_viewerStreams trivial
      have hskip := accepts_optionalToJson args.skipStreamAllocation accepts_boolean trivial
      have husername := accepts_text args.username
      show List.Forall₂ _ [_, _, _, _, _, _, _] [_, _, _, _, _, _, _] ↔ _
      simp only [List.forall₂_cons, List.forall₂_nil_left_iff, and_true]
      rw [accepts_clientType_iff, and_iff_right (accepts_clientId args.clientId)]
      exact and_iff_left ⟨hmetrics, husername, hbaseline, hstreams, hskip⟩

/-- **What the server takes of a request.**  The document is well formed, the variables are
those that it declares, and each has a value of its type exactly if the client type and the
capabilities of a feed input are known. -/
theorem request_accepted_iff (field : OperationField) (args : field.Arguments) :
    field.operation.ArgumentsDefined ∧
      (field.requestVariables args).map Prod.fst =
        field.operation.variableDefinitions.map Prod.fst ∧
      (GivenAs schema field.operation.variableDefinitions (field.requestVariables args) ↔
        field.Known args) :=
  ⟨argumentsDefined_operation field, names_requestVariables field args,
    requestVariables_accepted_iff field args⟩

end OperationField

/-! ## The requests of a broadcast -/

/-- `Broadcast::currentFeedInput`. -/
def currentFeedInput (feedId gameId : String) (quality : ConnectionQuality) : FeedInput :=
  { id := feedId
    game := some { id := if gameId.isEmpty then none else some gameId }
    sourceConnectionQuality :=
      match quality with
      | .good => some .good
      | .poor => some .poor
      | .unknown => none }

/-- What a broadcast knows of itself. -/
structure BroadcastFields where
  clientId : String
  clientType : String
  username : String
  feedId : String
  gameId : String
  fullTitle : String
  connectionQuality : ConnectionQuality

/-- The arguments with which a broadcast makes each request; `offer` is that of
`createFeed`. -/
def BroadcastFields.arguments (b : BroadcastFields) (offer : String) :
    (field : OperationField) → field.Arguments
  | .addFeed =>
      { clientId := b.clientId
        clientType := .capture
        input :=
          { currentFeedInput b.feedId b.gameId b.connectionQuality with sdpOffer := some offer } }
  | .updateFeed =>
      { clientId := b.clientId
        clientType := .capture
        input := currentFeedInput b.feedId b.gameId b.connectionQuality }
  | .changeStageTitle =>
      { clientId := b.clientId, clientType := .capture, title := b.fullTitle }
  | .startBroadcast =>
      { clientId := b.clientId, clientType := .capture, title := some b.fullTitle }
  | .stopBroadcast => { clientId := b.clientId, keepLiveHostingFeeds := none }
  | .stageSubscription =>
      { clientId := b.clientId
        clientType := .capture
        clientTypeForMetrics := some b.clientType
        username := b.username
        constrainedBaseline := none
        viewerStreams := none
        skipStreamAllocation := some false }

/-- The server takes every request of a broadcast. -/
theorem arguments_accepted (b : BroadcastFields) (offer : String) (field : OperationField) :
    GivenAs schema field.operation.variableDefinitions
      (field.requestVariables (b.arguments offer field)) := by
  apply (OperationField.requestVariables_accepted_iff field _).mpr
  cases field with
  | addFeed => exact ⟨ClientType.noConfusion, fun list h => by cases h⟩
  | updateFeed => exact ⟨ClientType.noConfusion, fun list h => by cases h⟩
  | changeStageTitle => exact ClientType.noConfusion
  | startBroadcast => exact ClientType.noConfusion
  | stopBroadcast => trivial
  | stageSubscription => exact ClientType.noConfusion

end Caff.Caffql
