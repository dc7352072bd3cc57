/-
# The payloads of the GraphQL mutations

The types of the generated `src/CaffQL.hpp` that the payload of a mutation on the stage is
made of, with their `from_json` overloads, and `graphqlRequest` of `src/RestApi.hpp` once
the response is there.  As in the reading of the REST types, beside each reader stands the
shape of the values it goes through on.  An enumeration goes through on every value.
-/
import Caffeine.Serialization

namespace Caff.Caffql

open Json

/-! ## Enumerations -/

/-- What a feed can carry. -/
inductive Capability
  | audio
  | video
  | unknown
  deriving DecidableEq, Repr

/-- The kinds of clients. -/
inductive ClientType
  | web
  | mobile
  | capture
  | unknown
  deriving DecidableEq, Repr

/-- What keeps viewers from a feed. -/
inductive Restriction
  | usOnly
  | unknown
  deriving DecidableEq, Repr

/-- The place of a feed on its stage. -/
inductive Role
  | primary
  | secondary
  | unknown
  deriving DecidableEq, Repr

/-- What a broadcaster tells of its connection. -/
inductive SourceConnectionQuality
  | good
  | poor
  | unknown
  deriving DecidableEq, Repr

/-- The names of the capabilities. -/
def Capability.table : EnumTable Capability :=
  { first := (.unknown, none)
    rest := [(.audio, some "AUDIO"), (.video, some "VIDEO")] }

/-- The names of the client types. -/
def ClientType.table : EnumTable ClientType :=
  { first := (.unknown, none)
    rest := [(.web, some "WEB"), (.mobile, some "MOBILE"), (.capture, some "CAPTURE")] }

/-- The names of the restrictions. -/
def Restriction.table : EnumTable Restriction :=
  { first := (.unknown, none)
    rest := [(.usOnly, some "US_ONLY")] }

/-- The names of the roles. -/
def Role.table : EnumTable Role :=
  { first := (.unknown, none)
    rest := [(.primary, some "PRIMARY"), (.secondary, some "SECONDARY")] }

/-- The names of the qualities. -/
def SourceConnectionQuality.table : EnumTable SourceConnectionQuality :=
  { first := (.unknown, none)
    rest := [(.good, some "GOOD"), (.poor, some "POOR")] }

/-- `json.at(key).get_to(value)` for an enumeration. -/
def getEnum {α : Type} (json : Json) (key : String) (table : EnumTable α) : Access α :=
  getValueTo json key (fun value => .ok (table.fromJson value))

/-- The member has to be there, and can be anything. -/
theorem succeeds_getEnum_iff {α : Type} {json : Json} {key : String} {table : EnumTable α} :
    (getEnum json key table).Succeeds ↔ json.Has key (fun _ => True) :=
  succeeds_getValueTo_iff (fun _ => by simp)

/-- A list of enumerators. -/
def getEnums {α : Type} (json : Json) (key : String) (table : EnumTable α) : Access (List α) :=
  getValueTo json key (getArray fun value => .ok (table.fromJson value))

/-- The member has to be an array, of anything. -/
theorem succeeds_getEnums_iff {α : Type} {json : Json} {key : String} {table : EnumTable α} :
    (getEnums json key table).Succeeds ↔ json.Has key (IsArrayOf fun _ => True) :=
  succeeds_getValueTo_iff (fun _ => succeeds_getArray_iff fun _ => by simp)

/-! ## Errors -/

/-- An error of the whole operation. -/
structure GraphqlError where
  message : String
  deriving DecidableEq, Repr

/-- `from_json` of an error; what else it tells is skipped. -/
def GraphqlError.fromJson (json : Json) : Access GraphqlError := do
  let message ← getValueTo json "message" getString
  pure { message }

/-- The members that all the error types of the schema have. -/
structure ErrorFields where
  title : Option String
  message : String
  deriving DecidableEq, Repr

/-- The `from_json` of each of them. -/
def ErrorFields.fromJson (json : Json) : Access ErrorFields := do
  let title ← optionalMember json "title" getString
  let message ← getValueTo json "message" getString
  pure { title, message }

/-- The errors of a payload, by the name of their type. -/
inductive Error
  | outOfCapacityError (fields : ErrorFields)
  | cdnError (fields : ErrorFields)
  | clientContentionError (fields : ErrorFields)
  | geoRestrictionError (fields : ErrorFields)
  | unknownError (fields : ErrorFields)
  deriving DecidableEq, Repr

/-- `from_json` of an error, of which the type is read first. -/
def Error.fromJson (json : Json) : Access Error := do
  let occupiedType ← getValueTo json "__typename" getString
  let fields ← ErrorFields.fromJson json
  pure (
    if occupiedType = "OutOfCapacityError" then .outOfCapacityError fields
    else if occupiedType = "CdnError" then .cdnError fields
    else if occupiedType = "ClientContentionError" then .clientContentionError fields
    else if occupiedType = "GeoRestrictionError" then .geoRestrictionError fields
    else .unknownError fields)

/-! ## Feeds -/

/-- The client that controls a stage. -/
structure ControllingClient where
  clientId : String
  clientType : ClientType
  deriving DecidableEq, Repr

/-- `from_json` of the client. -/
def ControllingClient.fromJson (json : Json) : Access ControllingClient := do
  let clientId ← getValueTo json "clientId" getString
  let clientType ← getEnum json "clientType" ClientType.table
  pure { clientId, clientType }

/-- The values a `ControllingClient` is read from. -/
def ControllingClientShape (json : Json) : Prop :=
  json.Has "clientId" IsString ∧ json.Has "clientType" (fun _ => True)

/-- The client is read exactly from these. -/
theorem succeeds_controllingClient_iff {json : Json} :
    (ControllingClient.fromJson json).Succeeds ↔ ControllingClientShape json := by
  have hread : (ControllingClient.fromJson json).Succeeds ↔
      (getValueTo json "clientId" getString).Succeeds ∧
        (getEnum json "clientType" ClientType.table).Succeeds ∧ True := by
    refine Except.succeeds_bind_of_forall fun _ => Except.succeeds_bind_of_forall fun _ => ?_
    simp
  rw [hread, succeeds_getValueTo_string_iff, succeeds_getEnum_iff, and_true]
  exact Iff.rfl

/-- The name of an occupied type decides how the rest of the value is read. -/
theorem succeeds_occupiedType_iff {α : Type} {json : Json} {read : String → Access α}
    {P : String → Prop} (hread : ∀ t, (read t).Succeeds ↔ P t) :
    (getValueTo json "__typename" getString >>= read).Succeeds ↔
      ∃ t, json.find "__typename" = some (.string t) ∧ P t := by
  rw [Except.succeeds_bind]
  constructor
  · rintro ⟨t, ht, hsucceeds⟩
    obtain ⟨v, hv, hstring⟩ := Except.exists_of_bind_eq_ok ht
    rw [getString_eq_ok_iff] at hstring
    rw [atKey_eq_ok_iff, hstring] at hv
    exact ⟨t, hv, (hread t).mp hsucceeds⟩
  · rintro ⟨t, ht, hP⟩
    refine ⟨t, ?_, (hread t).mpr hP⟩
    unfold getValueTo
    rw [atKey_eq_ok_iff.mpr ht]
    rfl

/-- A feed that can be hosted. -/
structure LiveHostable where
  address : String
  deriving DecidableEq, Repr

/-- A feed that hosts another one. -/
structure LiveHosting where
  address : String
  volume : ℚ
  ownerId : String
  ownerUsername : String
  deriving DecidableEq, Repr

/-- A host of a type that is not known. -/
structure UnknownLiveHost where
  address : String
  deriving DecidableEq, Repr

/-- The types that implement `LiveHost`. -/
inductive LiveHost
  | liveHostable (implementation : LiveHostable)
  | liveHosting (implementation : LiveHosting)
  | unknownLiveHost (implementation : UnknownLiveHost)
  deriving DecidableEq, Repr

/-- `from_json` of a feed that can be hosted, -/
def LiveHostable.fromJson (json : Json) : Access LiveHostable := do
  let address ← getValueTo json "address" getString
  pure { address }

/-- of one that hosts another, -/
def LiveHosting.fromJson (json : Json) : Access LiveHosting := do
  let address ← getValueTo json "address" getString
  let volume ← getValueTo json "volume" getDouble
  let ownerId ← getValueTo json "ownerId" getString
  let ownerUsername ← getValueTo json "ownerUsername" getString
  pure { address, volume, ownerId, ownerUsername }

/-- of an unknown one, -/
def UnknownLiveHost.fromJson (json : Json) : Access UnknownLiveHost := do
  let address ← getValueTo json "address" getString
  pure { address }

/-- and of all three, by the name of the type. -/
def LiveHost.fromJson (json : Json) : Access LiveHost := do
  let occupiedType ← getValueTo json "__typename" getString
  if occupiedType = "LiveHostable" then LiveHost.liveHostable <$> LiveHostable.fromJson json
  else if occupiedType = "LiveHosting" then LiveHost.liveHosting <$> LiveHosting.fromJson json
  else LiveHost.unknownLiveHost <$> UnknownLiveHost.fromJson json

/-- The values a `LiveHosting` is read from. -/
def LiveHostingShape (json : Json) : Prop :=
  json.Has "address" IsString ∧ json.Has "volume" IsNumber ∧ json.Has "ownerId" IsString ∧
    json.Has "ownerUsername" IsString

/-- The values a `LiveHost` is read from. -/
def LiveHostShape (json : Json) : Prop :=
  ∃ occupiedType, json.find "__typename" = some (.string occupiedType) ∧
    if occupiedType = "LiveHosting" then LiveHostingShape json else json.Has "address" IsString

/-- A feed that hosts another is read exactly from these, -/
theorem succeeds_liveHosting_iff {json : Json} :
    (LiveHosting.fromJson json).Succeeds ↔ LiveHostingShape json := by
  have hread : (LiveHosting.fromJson json).Succeeds ↔
      (getValueTo json "address" getString).Succeeds ∧
        (getValueTo json "volume" getDouble).Succeeds ∧
        (getValueTo json "ownerId" getString).Succeeds ∧
        (getValueTo json "ownerUsername" getString).Succeeds ∧ True := by
    refine Except.succeeds_bind_of_forall fun _ => Except.succeeds_bind_of_forall fun _ => ?_
    refine Except.succeeds_bind_of_forall fun _ => Except.succeeds_bind_of_forall fun _ => ?_
    simp
  rw [hread, succeeds_getValueTo_string_iff, succeeds_getValueTo_string_iff,
    succeeds_getValueTo_string_iff, succeeds_getValueTo_iff (fun _ => succeeds_getDouble_iff),
    and_true]
  exact Iff.rfl

/-- one that can be hosted from an address, -/
theorem succeeds_liveHostable_iff {json : Json} :
    (LiveHostable.fromJson json).Succeeds ↔ json.Has "address" IsString :=
  succeeds_getValueTo_string_pure_iff

/-- and so is an unknown one. -/
theorem succeeds_unknownLiveHost_iff {json : Json} :
    (UnknownLiveHost.fromJson json).Succeeds ↔ json.Has "address" IsString :=
  succeeds_getValueTo_string_pure_iff

/-- A host is read exactly from these. -/
theorem succeeds_liveHost_iff {json : Json} :
    (LiveHost.fromJson json).Succeeds ↔ LiveHostShape json := by
  apply succeeds_occupiedType_iff
  intro occupiedType
  by_cases hhostable : occupiedType = "LiveHostable"
  · have hhosting : occupiedType ≠ "LiveHosting" := by
      rw [hhostable]
      decide
    rw [if_pos hhostable, if_neg hhosting, Except.succeeds_map, succeeds_liveHostable_iff]
  · rw [if_neg hhostable]
    by_cases hhosting : occupiedType = "LiveHosting"
    · rw [if_pos hhosting, if_pos hhosting, Except.succeeds_map, succeeds_liveHosting_iff]
    · rw [if_neg hhosting, if_neg hhosting, Except.succeeds_map, succeeds_unknownLiveHost_iff]

/-- The stream of the client that broadcasts the feed. -/
structure BroadcasterStream where
  id : String
  url : String
  sdpAnswer : String
  deriving DecidableEq, Repr

/-- The stream of a client that views it. -/
structure ViewerStream where
  id : String
  url : String
  sdpOffer : String
  deriving DecidableEq, Repr

/-- A stream of a type that is not known. -/
structure UnknownStream where
  id : String
  url : String
  deriving DecidableEq, Repr

/-- The types that implement `Stream`. -/
inductive Stream
  | broadcasterStream (implementation : BroadcasterStream)
  | viewerStream (implementation : ViewerStream)
  | unknownStream (implementation : UnknownStream)
  deriving DecidableEq, Repr

/-- `from_json` of the stream of a broadcaster, -/
def BroadcasterStream.fromJson (json : Json) : Access BroadcasterStream := do
  let id ← getValueTo json "id" getString
  let url ← getValueTo json "url" getString
  let sdpAnswer ← getValueTo json "sdpAnswer" getString
  pure { id, url, sdpAnswer }

/-- of a viewer, -/
def ViewerStream.fromJson (json : Json) : Access ViewerStream := do
  let id ← getValueTo json "id" getString
  let url ← getValueTo json "url" getString
  let sdpOffer ← getValueTo json "sdpOffer" getString
  pure { id, url, sdpOffer }

/-- of an unknown client, -/
def UnknownStream.fromJson (json : Json) : Access UnknownStream := do
  let id ← getValueTo json "id" getString
  let url ← getValueTo json "url" getString
  pure { id, url }

/-- and of all three, by the name of the type. -/
def Stream.fromJson (json : Json) : Access Stream := do
  let occupiedType ← getValueTo json "__typename" getString
  if occupiedType = "BroadcasterStream" then
    Stream.broadcasterStream <$> BroadcasterStream.fromJson json
  else if occupiedType = "ViewerStream" then Stream.viewerStream <$> ViewerStream.fromJson json
  else Stream.unknownStream <$> UnknownStream.fromJson json

/-- The values a `Stream` is read from. -/
def StreamShape (json : Json) : Prop :=
  ∃ occupiedType, json.find "__typename" = some (.string occupiedType) ∧
    json.Has "id" IsString ∧ json.Has "url" IsString ∧
    (occupiedType = "BroadcasterStream" → json.Has "sdpAnswer" IsString) ∧
    (occupiedType = "ViewerStream" → json.Has "sdpOffer" IsString)

/-- The stream of a broadcaster is read from two members and the answer, -/
theorem succeeds_broadcasterStream_iff {json : Json} :
    (BroadcasterStream.fromJson json).Succeeds ↔
      json.Has "id" IsString ∧ json.Has "url" IsString ∧ json.Has "sdpAnswer" IsString := by
  have hread : (BroadcasterStream.fromJson json).Succeeds ↔
      (getValueTo json "id" getString).Succeeds ∧ (getValueTo json "url" getString).Succeeds ∧
        (getValueTo json "sdpAnswer" getString).Succeeds ∧ True := by
    refine Except.succeeds_bind_of_forall fun _ => Except.succeeds_bind_of_forall fun _ => ?_
    exact Except.succeeds_bind_of_forall fun _ => by simp
  rw [hread, succeeds_getValueTo_string_iff, succeeds_getValueTo_string_iff,
    succeeds_getValueTo_string_iff, and_true]

/-- that of a viewer from the two and the offer, -/
theorem succeeds_viewerStream_iff {json : Json} :
    (ViewerStream.fromJson json).Succeeds ↔
      json.Has "id" IsString ∧ json.Has "url" IsString ∧ json.Has "sdpOffer" IsString := by
  have hread : (ViewerStream.fromJson json).Succeeds ↔
      (getValueTo json "id" getString).Succeeds ∧ (getValueTo json "url" getString).Succeeds ∧
        (getValueTo json "sdpOffer" getString).Succeeds ∧ True := by
    refine Except.succeeds_bind_of_forall fun _ => Except.succeeds_bind_of_forall fun _ => ?_
    exact Except.succeeds_bind_of_forall fun _ => by simp
  rw [hread, succeeds_getValueTo_string_iff, succeeds_getValueTo_string_iff,
    succeeds_getValueTo_string_iff, and_true]

/-- and an unknown one from the two. -/
theorem succeeds_unknownStream_iff {json : Json} :
    (UnknownStream.fromJson json).Succeeds ↔
      json.Has "id" IsString ∧ json.Has "url" IsString := by
  have hread : (UnknownStream.fromJson json).Succeeds ↔
      (getValueTo json "id" getString).Succeeds ∧
        (getValueTo json "url" getString).Succeeds ∧ True := by
    refine Except.succeeds_bind_of_forall fun _ => Except.succeeds_bind_of_forall fun _ => ?_
    simp
  rw [hread, succeeds_getValueTo_string_iff, succeeds_getValueTo_string_iff, and_true]

/-- A stream is read exactly from these. -/
theorem succeeds_stream_iff {json : Json} :
    (Stream.fromJson json).Succeeds ↔ StreamShape json := by
  apply succeeds_occupiedType_iff
  intro occupiedType
  by_cases hbroadcaster : occupiedType = "BroadcasterStream"
  · rw [if_pos hbroadcaster, Except.succeeds_map, succeeds_broadcasterStream_iff, hbroadcaster]
    simp
  · rw [if_neg hbroadcaster]
    by_cases hviewer : occupiedType = "ViewerStream"
    · rw [if_pos hviewer, Except.succeeds_map, succeeds_viewerStream_iff, hviewer]
      simp
    · rw [if_neg hviewer, Except.succeeds_map, succeeds_unknownStream_iff]
      simp [hbroadcaster, hviewer]

/-- A feed of the stage. -/
structure Feed where
  id : String
  clientId : String
  clientType : ClientType
  gameId : Option String
  sourceConnectionQuality : SourceConnectionQuality
  capabilities : List Capability
  role : Role
  restrictions : List Restriction
  liveHost : Option LiveHost
  stream : Stream
  deriving DecidableEq, Repr

/-- `from_json` of a feed, member by member. -/
def Feed.fromJson (json : Json) : Access Feed := do
  let id ← getValueTo json "id" getString
  let clientId ← getValueTo json "clientId" getString
  let clientType ← getEnum json "clientType" ClientType.table
  let gameId ← optionalMember json "gameId" getString
  let sourceConnectionQuality ←
    getEnum json "sourceConnectionQuality" SourceConnectionQuality.table
  let capabilities ← getEnums json "capabilities" Capability.table
  let role ← getEnum json "role" Role.table
  let restrictions ← getEnums json "restrictions" Restriction.table
  let liveHost ← optionalMember json "liveHost" LiveHost.fromJson
  let stream ← getValueTo json "stream" Stream.fromJson
  pure
    { id, clientId, clientType, gameId, sourceConnectionQuality, capabilities, role,
      restrictions, liveHost, stream }

/-- The values a `Feed` is read from. -/
structure FeedShape (json : Json) : Prop where
  id : json.Has "id" IsString
  clientId : json.Has "clientId" IsString
  clientType : json.Has "clientType" (fun _ => True)
  gameId : json.HasOptional "gameId" IsString
  sourceConnectionQuality : json.Has "sourceConnectionQuality" (fun _ => True)
  capabilities : json.Has "capabilities" (IsArrayOf fun _ => True)
  role : json.Has "role" (fun _ => True)
  restrictions : json.Has "restrictions" (IsArrayOf fun _ => True)
  liveHost : json.HasOptional "liveHost" LiveHostShape
  stream : json.Has "stream" StreamShape

/-- A feed is read exactly from these. -/
theorem succeeds_feed_iff {json : Json} : (Feed.fromJson json).Succeeds ↔ FeedShape json := by
  have hread : (Feed.fromJson json).Succeeds ↔
      (getValueTo json "id" getString).Succeeds ∧
        (getValueTo json "clientId" getString).Succeeds ∧
        (getEnum json "clientType" ClientType.table).Succeeds ∧
        (optionalMember json "gameId" getString).Succeeds ∧
        (getEnum json "sourceConnectionQuality" SourceConnectionQuality.table).Succeeds ∧
        (getEnums json "capabilities" Capability.table).Succeeds ∧
        (getEnum json "role" Role.table).Succeeds ∧
        (getEnums json "restrictions" Restriction.table).Succeeds ∧
        (optionalMember json "liveHost" LiveHost.fromJson).Succeeds ∧
        (getValueTo json "stream" Stream.fromJson).Succeeds ∧ True := by
    refine Except.succeeds_bind_of_forall fun _ => Except.succeeds_bind_of_forall fun _ => ?_
    refine Except.succeeds_bind_of_forall fun _ => Except.succeeds_bind_of_forall fun _ => ?_
    refine Except.succeeds_bind_of_forall fun _ => Except.succeeds_bind_of_forall fun _ => ?_
    refine Except.succeeds_bind_of_forall fun _ => Except.succeeds_bind_of_forall fun _ => ?_
    refine Except.succeeds_bind_of_forall fun _ => Except.succeeds_bind_of_forall fun _ => ?_
    simp
  rw [hread, succeeds_getValueTo_string_iff, succeeds_getValueTo_string_iff,
    succeeds_getEnum_iff, succeeds_getEnum_iff, succeeds_getEnum_iff, succeeds_getEnums_iff,
    succeeds_getEnums_iff, succeeds_optionalMember_iff (fun _ => succeeds_getString_iff),
    succeeds_optionalMember_iff (fun _ => succeeds_liveHost_iff),
    succeeds_getValueTo_iff (fun _ => succeeds_stream_iff)]
  constructor
  · rintro ⟨id, clientId, clientType, gameId, quality, capabilities, role, restrictions,
      liveHost, stream, -⟩
    exact ⟨id, clientId, clientType, gameId, quality, capabilities, role, restrictions,
      liveHost, stream⟩
  · intro h
    exact ⟨h.id, h.clientId, h.clientType, h.gameId, h.sourceConnectionQuality, h.capabilities,
      h.role, h.restrictions, h.liveHost, h.stream, trivial⟩

/-! ## Stages and payloads -/

/-- A stage, with its feeds. -/
structure Stage where
  id : String
  username : String
  title : String
  live : Bool
  broadcastId : Option String
  controllingClient : Option ControllingClient
  feeds : List Feed
  deriving DecidableEq, Repr

/-- `from_json` of a stage, member by member. -/
def Stage.fromJson (json : Json) : Access Stage := do
  let id ← getValueTo json "id" getString
  let username ← getValueTo json "username" getString
  let title ← getValueTo json "title" getString
  let live ← getValueTo json "live" getBool
  let broadcastId ← optionalMember json "broadcastId" getString
  let controllingClient ← optionalMember json "controllingClient" ControllingClient.fromJson
  let feeds ← getValueTo json "feeds" (getArray Feed.fromJson)
  pure { id, username, title, live, broadcastId, controllingClient, feeds }

/-- The values a `Stage` is read from. -/
structure StageShape (json : Json) : Prop where
  id : json.Has "id" IsString
  username : json.Has "username" IsString
  title : json.Has "title" IsString
  live : json.Has "live" IsBool
  broadcastId : json.HasOptional "broadcastId" IsString
  controllingClient : json.HasOptional "controllingClient" ControllingClientShape
  feeds : json.Has "feeds" (IsArrayOf FeedShape)

/-- A stage is read exactly from these. -/
theorem succeeds_stage_iff {json : Json} :
    (Stage.fromJson json).Succeeds ↔ StageShape json := by
  have hread : (Stage.fromJson json).Succeeds ↔
      (getValueTo json "id" getString).Succeeds ∧
        (getValueTo json "username" getString).Succeeds ∧
        (getValueTo json "title" getString).Succeeds ∧
        (getValueTo json "live" getBool).Succeeds ∧
        (optionalMember json "broadcastId" getString).Succeeds ∧
        (optionalMember json "controllingClient" ControllingClient.fromJson).Succeeds ∧
        (getValueTo json "feeds" (getArray Feed.fromJson)).Succeeds ∧ True := by
    refine Except.succeeds_bind_of_forall fun _ => Except.succeeds_bind_of_forall fun _ => ?_
    refine Except.succeeds_bind_of_forall fun _ => Except.succeeds_bind_of_forall fun _ => ?_
    refine Except.succeeds_bind_of_forall fun _ => Except.succeeds_bind_of_forall fun _ => ?_
    apply Except.succeeds_bind_of_forall
    intro _
    simp
  rw [hread, succeeds_getValueTo_string_iff, succeeds_getValueTo_string_iff,
    succeeds_getValueTo_string_iff, succeeds_getValueTo_iff (fun _ => succeeds_getBool_iff),
    succeeds_optionalMember_iff (fun _ => succeeds_getString_iff),
    succeeds_optionalMember_iff (fun _ => succeeds_controllingClient_iff),
    succeeds_getValueTo_iff (fun _ => succeeds_getArray_iff fun _ => succeeds_feed_iff)]
  constructor
  · rintro ⟨id, username, title, live, broadcastId, controllingClient, feeds, -⟩
    exact ⟨id, username, title, live, broadcastId, controllingClient, feeds⟩
  · intro h
    exact ⟨h.id, h.username, h.title, h.live, h.broadcastId, h.controllingClient, h.feeds,
      trivial⟩

/-- `Mutation::AddFeedPayload`. -/
structure AddFeedPayload where
  error : Option Error
  stage : Stage
  feed : Feed
  deriving DecidableEq, Repr

/-- The error is read first, but the payload is there only if the rest is read as well. -/
def AddFeedPayload.fromJson (json : Json) : Access AddFeedPayload := do
  let error ← optionalMember json "error" Error.fromJson
  let stage ← getValueTo json "stage" Stage.fromJson
  let feed ← getValueTo json "feed" Feed.fromJson
  pure { error, stage, feed }

/-! ## Responses -/

/-- `GraphqlResponse`. -/
inductive GraphqlResponse (Data : Type)
  | data (value : Data)
  | errors (list : List GraphqlError)
  deriving DecidableEq, Repr

/-- The `response` of an operation `field`. -/
def response {Data : Type} (field : String) (fromJson : Json → Access Data) (json : Json) :
    Access (GraphqlResponse Data) :=
  match json.find "errors" with
  | some errors => GraphqlResponse.errors <$> getArray GraphqlError.fromJson errors
  | none => do
      let data ← json.atKey "data"
      let value ← data.atKey field
      GraphqlResponse.data <$> fromJson value

/-- `AddFeedField::response`. -/
def AddFeedField.response : Json → Access (GraphqlResponse AddFeedPayload) :=
  Caffql.response "addFeed" AddFeedPayload.fromJson

/-- `graphqlRequest` once `graphqlRawRequest` has returned. -/
def unpack {Data : Type} (response : Json → Access (GraphqlResponse Data))
    (rawResponse : Option Json) : Option Data :=
  match rawResponse with
  | none => none
  | some json =>
      match response json with
      | .ok (.data value) => some value
      | .ok (.errors _) => none
      | .error _ => none  -- `catch (...)`

/-- A response without errors is unpacked exactly if its data is read. -/
theorem unpack_response_eq_some_iff {Data : Type} {field : String}
    {fromJson : Json → Access Data} {json data value : Json} {unpacked : Data}
    (herrors : json.find "errors" = none) (hdata : json.find "data" = some data)
    (hvalue : data.find field = some value) :
    unpack (response field fromJson) (some json) = some unpacked ↔
      fromJson value = .ok unpacked := by
  have hresponse : response field fromJson json = GraphqlResponse.data <$> fromJson value := by
    unfold response
    rw [herrors]
    dsimp only
    rw [atKey_eq_ok_iff.mpr hdata]
    show (data.atKey field >>= fun value => GraphqlResponse.data <$> fromJson value) = _
    rw [atKey_eq_ok_iff.mpr hvalue]
    rfl
  unfold unpack
  dsimp only
  rw [hresponse]
  rcases fromJson value with e | v
  · simp [Functor.map, Except.map]
  · simp [Functor.map, Except.map]

end Caff.Caffql
