/-
# The stage as the server holds it

The other end of the operations.  The server's types are open: its enumerators are names, an
interface can be implemented by types that `src/CaffQL.hpp` does not know, and every object
has more fields than the documents select.  `view` says what a client of this version is to
see of each value.  What the library unpacks from the response to one of its documents is
the view of the value that the document was executed on.
-/
import Caffeine.Operations

namespace Caff.Caffql

open Json Graphql

/-! ## Names -/

/-- The capability of a name, for this version, -/
def Capability.ofName : String → Capability
  | "AUDIO" => .audio
  | "VIDEO" => .video
  | _ => .unknown

/-- the client type, -/
def ClientType.ofName : String → ClientType
  | "WEB" => .web
  | "MOBILE" => .mobile
  | "CAPTURE" => .capture
  | _ => .unknown

/-- the restriction, -/
def Restriction.ofName : String → Restriction
  | "US_ONLY" => .usOnly
  | _ => .unknown

/-- the role -/
def Role.ofName : String → Role
  | "PRIMARY" => .primary
  | "SECONDARY" => .secondary
  | _ => .unknown

/-- and the quality. -/
def SourceConnectionQuality.ofName : String → SourceConnectionQuality
  | "GOOD" => .good
  | "POOR" => .poor
  | _ => .unknown

/-- The tables read a name as this. -/
theorem Capability.fromJson_string (name : String) :
    Capability.table.fromJson (.string name) = .ofName name := by
  unfold Capability.ofName
  split
  · rfl
  · rfl
  · next haudio hvideo =>
    apply EnumTable.fromJson_of_unmatched
    simpa [Capability.table, EnumTable.pairs, Json.ofName] using And.intro haudio hvideo

theorem ClientType.fromJson_string (name : String) :
    ClientType.table.fromJson (.string name) = .ofName name := by
  unfold ClientType.ofName
  split
  · rfl
  · rfl
  · rfl
  · next hweb hmobile hcapture =>
    apply EnumTable.fromJson_of_unmatched
    simpa [ClientType.table, EnumTable.pairs, Json.ofName] using
      And.intro hweb (And.intro hmobile hcapture)

theorem Restriction.fromJson_string (name : String) :
    Restriction.table.fromJson (.string name) = .ofName name := by
  unfold Restriction.ofName
  split
  · rfl
  · next husOnly =>
    apply EnumTable.fromJson_of_unmatched
    simpa [Restriction.table, EnumTable.pairs, Json.ofName] using husOnly

theorem Role.fromJson_string (name : String) :
    Role.table.fromJson (.string name) = .ofName name := by
  unfold Role.ofName
  split
  · rfl
  · rfl
  · next hprimary hsecondary =>
    apply EnumTable.fromJson_of_unmatched
    simpa [Role.table, EnumTable.pairs, Json.ofName] using And.intro hprimary hsecondary

theorem SourceConnectionQuality.fromJson_string (name : String) :
    SourceConnectionQuality.table.fromJson (.string name) = .ofName name := by
  unfold SourceConnectionQuality.ofName
  split
  · rfl
  · rfl
  · next hgood hpoor =>
    apply EnumTable.fromJson_of_unmatched
    simpa [SourceConnectionQuality.table, EnumTable.pairs, Json.ofName] using
      And.intro hgood hpoor

/-! ## The server's types -/

namespace Server

/-- What stands for an optional field. -/
def optional {α : Type} (valueOf : α → Value) : Option α → Value
  | none => .null
  | some a => valueOf a

/-- A number in any of the forms a server writes it. -/
structure Number where
  json : Json
  value : ℚ
  reads : json.getDouble = .ok value

/-- The fields that every error has. -/
structure ErrorFields where
  title : Option String
  message : String
  others : String → Value

/-- The types that implement `Error`, also those that are not known. -/
structure Error where
  type : String
  fields : ErrorFields

/-- The value of an error; its type may have more fields. -/
def Error.value (error : Error) : Value :=
  .object error.type fun
    | "title" => optional (fun title => .leaf (.string title)) error.fields.title
    | "message" => .leaf (.string error.fields.message)
    | field => error.fields.others field

/-- The client that controls the stage. -/
structure ControllingClient where
  clientId : String
  clientType : String
  others : String → Value

/-- The value of the client. -/
def ControllingClient.value (client : ControllingClient) : Value :=
  .object "ControllingClient" fun
    | "clientId" => .leaf (.string client.clientId)
    | "clientType" => .leaf (.string client.clientType)
    | field => client.others field

/-- What distinguishes the types that implement `LiveHost`. -/
inductive LiveHostType
  | liveHostable
  | liveHosting (volume : Number) (ownerId ownerUsername : String)
  | other (name : String) (hname : name ≠ "LiveHostable" ∧ name ≠ "LiveHosting")

/-- The name of the type. -/
def LiveHostType.name : LiveHostType → String
  | liveHostable => "LiveHostable"
  | liveHosting _ _ _ => "LiveHosting"
  | other name _ => name

/-- A host, which has an address whatever its type. -/
structure LiveHost where
  type : LiveHostType
  address : String
  others : String → Value

/-- The value of a host: what its type does not have, others may. -/
def LiveHost.value (liveHost : LiveHost) : Value :=
  .object liveHost.type.name fun field =>
    match liveHost.type, field with
    | _, "address" => .leaf (.string liveHost.address)
    | .liveHosting volume _ _, "volume" => .leaf volume.json
    | .liveHosting _ ownerId _, "ownerId" => .leaf (.string ownerId)
    | .liveHosting _ _ ownerUsername, "ownerUsername" => .leaf (.string ownerUsername)
    | _, _ => liveHost.others field

/-- What distinguishes the types that implement `Stream`. -/
inductive StreamType
  | broadcasterStream (sdpAnswer : String)
  | viewerStream (sdpOffer : String)
  | other (name : String) (hname : name ≠ "BroadcasterStream" ∧ name ≠ "ViewerStream")

/-- The name of the type. -/
def StreamType.name : StreamType → String
  | broadcasterStream _ => "BroadcasterStream"
  | viewerStream _ => "ViewerStream"
  | other name _ => name

/-- A stream, which has these two whatever its type. -/
structure Stream where
  type : StreamType
  id : String
  url : String
  others : String → Value

/-- The value of a stream. -/
def Stream.value (stream : Stream) : Value :=
  .object stream.type.name fun field =>
    match stream.type, field with
    | _, "id" => .leaf (.string stream.id)
    | _, "url" => .leaf (.string stream.url)
    | .broadcasterStream sdpAnswer, "sdpAnswer" => .leaf (.string sdpAnswer)
    | .viewerStream sdpOffer, "sdpOffer" => .leaf (.string sdpOffer)
    | _, _ => stream.others field

/-- A feed; its enumerators are names. -/
structure Feed where
  id : String
  clientId : String
  clientType : String
  gameId : Option String
  sourceConnectionQuality : String
  capabilities : List String
  role : String
  restrictions : List String
  liveHost : Option LiveHost
  stream : Stream
  others : String → Value

/-- The value of a feed. -/
def Feed.value (feed : Feed) : Value :=
  .object "Feed" fun
    | "id" => .leaf (.string feed.id)
    | "clientId" => .leaf (.string feed.clientId)
    | "clientType" => .leaf (.string feed.clientType)
    | "gameId" => optional (fun gameId => .leaf (.string gameId)) feed.gameId
    | "sourceConnectionQuality" => .leaf (.string feed.sourceConnectionQuality)
    | "capabilities" => .list (feed.capabilities.map fun name => .leaf (.string name))
    | "role" => .leaf (.string feed.role)
    | "restrictions" => .list (feed.restrictions.map fun name => .leaf (.string name))
    | "liveHost" => optional LiveHost.value feed.liveHost
    | "stream" => feed.stream.value
    | field => feed.others field

/-- A stage with its feeds. -/
structure Stage where
  id : String
  username : String
  title : String
  live : Bool
  broadcastId : Option String
  controllingClient : Option ControllingClient
  feeds : List Feed
  others : String → Value

/-- The value of a stage. -/
def Stage.value (stage : Stage) : Value :=
  .object "Stage" fun
    | "id" => .leaf (.string stage.id)
    | "username" => .leaf (.string stage.username)
    | "title" => .leaf (.string stage.title)
    | "live" => .leaf (.boolean stage.live)
    | "broadcastId" => optional (fun id => .leaf (.string id)) stage.broadcastId
    | "controllingClient" => optional ControllingClient.value stage.controllingClient
    | "feeds" => .list (stage.feeds.map Feed.value)
    | field => stage.others field

/-- The payload of an operation on a stage. -/
structure StagePayload where
  type : String
  error : Option Error
  stage : Stage
  others : String → Value

/-- The value of the payload. -/
def StagePayload.value (payload : StagePayload) : Value :=
  .object payload.type fun
    | "error" => optional Error.value payload.error
    | "stage" => payload.stage.value
    | field => payload.others field

/-- The payload of an operation on a feed. -/
structure FeedPayload where
  type : String
  error : Option Error
  stage : Stage
  feed : Feed
  others : String → Value

/-- The value of the payload. -/
def FeedPayload.value (payload : FeedPayload) : Value :=
  .object payload.type fun
    | "error" => optional Error.value payload.error
    | "stage" => payload.stage.value
    | "feed" => payload.feed.value
    | field => payload.others field

/-! ## Views -/

/-- What is seen of the fields of an error: both of those that the client knows. -/
def ErrorFields.view (fields : ErrorFields) : Caffql.ErrorFields :=
  { title := fields.title, message := fields.message }

/-- An error is seen by its type. -/
def Error.view (error : Error) : Caffql.Error :=
  match error.type with
  | "OutOfCapacityError" => .outOfCapacityError error.fields.view
  | "CdnError" => .cdnError error.fields.view
  | "ClientContentionError" => .clientContentionError error.fields.view
  | "GeoRestrictionError" => .geoRestrictionError error.fields.view
  | _ => .unknownError error.fields.view

/-- The client, with the type as it is known. -/
def ControllingClient.view (client : ControllingClient) : Caffql.ControllingClient :=
  { clientId := client.clientId, clientType := .ofName client.clientType }

/-- A host of another type is seen by its address. -/
def LiveHost.view (liveHost : LiveHost) : Caffql.LiveHost :=
  match liveHost.type with
  | .liveHostable => .liveHostable { address := liveHost.address }
  | .liveHosting volume ownerId ownerUsername =>
      .liveHosting { address := liveHost.address, volume := volume.value, ownerId, ownerUsername }
  | .other _ _ => .unknownLiveHost { address := liveHost.address }

/-- A stream of another type is seen by its identifier and its address. -/
def Stream.view (stream : Stream) : Caffql.Stream :=
  match stream.type with
  | .broadcasterStream sdpAnswer =>
      .broadcasterStream { id := stream.id, url := stream.url, sdpAnswer }
  | .viewerStream sdpOffer => .viewerStream { id := stream.id, url := stream.url, sdpOffer }
  | .other _ _ => .unknownStream { id := stream.id, url := stream.url }

/-- A feed, with the enumerators as they are known. -/
def Feed.view (feed : Feed) : Caffql.Feed :=
  { id := feed.id
    clientId := feed.clientId
    clientType := .ofName feed.clientType
    gameId := feed.gameId
    sourceConnectionQuality := .ofName feed.sourceConnectionQuality
    capabilities := feed.capabilities.map .ofName
    role := .ofName feed.role
    restrictions := feed.restrictions.map .ofName
    liveHost := feed.liveHost.map LiveHost.view
    stream := feed.stream.view }

/-- A stage, with all its feeds in their order. -/
def Stage.view (stage : Stage) : Caffql.Stage :=
  { id := stage.id
    username := stage.username
    title := stage.title
    live := stage.live
    broadcastId := stage.broadcastId
    controllingClient := stage.controllingClient.map ControllingClient.view
    feeds := stage.feeds.map Feed.view }

/-- The payload of an operation on a stage, -/
def StagePayload.view (payload : StagePayload) : StageFields :=
  { error := payload.error.map Error.view, stage := payload.stage.view }

/-- and on a feed. -/
def FeedPayload.view (payload : FeedPayload) : AddFeedPayload :=
  { error := payload.error.map Error.view
    stage := payload.stage.view
    feed := payload.feed.view }

/-! ## Reading the response -/

section

variable {α : Type} {get : Json → Access α} {set sub : SelectionSet} {key type : String}
variable {resolve : String → Value}

/-- A member that was selected is read as the field was resolved, -/
theorem getValueTo_execute {result : α} (hfind : set.find type key = some sub)
    (hname : key ≠ "__typename") (h : Reads get sub (resolve key) result) :
    getValueTo (set.execute (.object type resolve)) key get = .ok result :=
  Reads.member hname hfind h

/-- an enumerator from its name, -/
theorem getEnum_execute {table : EnumTable α} {name : String} {e : α}
    (hfind : set.find type key = some sub) (hname : key ≠ "__typename")
    (hresolve : resolve key = .leaf (.string name)) (he : table.fromJson (.string name) = e) :
    getEnum (set.execute (.object type resolve)) key table = .ok e := by
  apply getValueTo_execute hfind hname
  rw [hresolve]
  exact Reads.leaf (congrArg Except.ok he)

/-- and a list of enumerators from their names. -/
theorem getEnums_execute {table : EnumTable α} {names : List String} {ofName : String → α}
    (hfind : set.find type key = some sub) (hname : key ≠ "__typename")
    (hresolve : resolve key = .list (names.map fun name => .leaf (.string name)))
    (htable : ∀ name, table.fromJson (.string name) = ofName name) :
    getEnums (set.execute (.object type resolve)) key table = .ok (names.map ofName) := by
  have hname' : ∀ name, Reads (fun value => Except.ok (table.fromJson value)) sub
      (.leaf (.string name)) (ofName name) :=
    fun name => Reads.leaf (congrArg Except.ok (htable name))
  apply getValueTo_execute hfind hname
  rw [hresolve]
  exact Reads.list hname' names

/-- An optional field, for a reader of the values that are not null. -/
theorem optionalMember_execute {β : Type} {valueOf : β → Value} {resultOf : β → α} {b : Option β}
    (hfind : set.find type key = some sub) (hname : key ≠ "__typename")
    (hresolve : resolve key = optional valueOf b)
    (hnull : ∀ b, sub.execute (valueOf b) ≠ .null)
    (h : ∀ b, Reads get sub (valueOf b) (resultOf b)) :
    optionalMember (set.execute (.object type resolve)) key get = .ok (b.map resultOf) := by
  apply Reads.optionalMember hname hfind
  rw [hresolve]
  cases b with
  | none => exact Reads.null
  | some b => exact Reads.some (h b) (hnull b)

/-- An optional field that is a string. -/
theorem optionalMember_string_execute {text : Option String}
    (hfind : set.find type key = some sub) (hname : key ≠ "__typename")
    (hresolve : resolve key = optional (fun text => .leaf (.string text)) text) :
    optionalMember (set.execute (.object type resolve)) key getString = .ok text := by
  have h : optionalMember _ key getString = .ok (text.map id) :=
    optionalMember_execute hfind hname hresolve (fun _ => by simp) (fun text => Reads.leaf rfl)
  rwa [Option.map_id_fun, id_eq] at h

end

/-- An error is read as it is to be seen, -/
theorem reads_error (error : Error) :
    Reads Caffql.Error.fromJson errorSelection error.value error.view := by
  have hfields : Caffql.ErrorFields.fromJson (errorSelection.execute error.value) =
      .ok error.fields.view := by
    refine bind_eq_ok (optionalMember_string_execute rfl (by decide) rfl) ?_
    refine bind_eq_ok (getValueTo_execute rfl (by decide) (Reads.leaf rfl)) ?_
    rfl
  refine bind_eq_ok (Reads.typename rfl) ?_
  refine bind_eq_ok hfields ?_
  symm
  unfold Error.view
  split
  · next htype => rw [htype]; rfl
  · next htype => rw [htype]; rfl
  · next htype => rw [htype]; rfl
  · next htype => rw [htype]; rfl
  · next houtOfCapacity hcdn hclientContention hgeoRestriction =>
    rw [if_neg houtOfCapacity, if_neg hcdn, if_neg hclientContention, if_neg hgeoRestriction]
    rfl

/-- the client, -/
theorem reads_controllingClient (client : ControllingClient) :
    Reads Caffql.ControllingClient.fromJson controllingClientSelection client.value
      client.view := by
  refine bind_eq_ok (getValueTo_execute rfl (by decide) (Reads.leaf rfl)) ?_
  refine bind_eq_ok (getEnum_execute rfl (by decide) rfl (ClientType.fromJson_string _)) ?_
  rfl

/-- a host of any type, -/
theorem reads_liveHost (liveHost : LiveHost) :
    Reads Caffql.LiveHost.fromJson liveHostSelection liveHost.value liveHost.view := by
  rcases liveHost with ⟨type, address, others⟩
  refine bind_eq_ok (Reads.typename rfl) ?_
  cases type with
  | liveHostable =>
      have hread : Reads LiveHostable.fromJson liveHostSelection
          (LiveHost.value ⟨.liveHostable, address, others⟩) { address } :=
        bind_eq_ok (getValueTo_execute rfl (by decide) (Reads.leaf rfl)) rfl
      exact congrArg (Functor.map Caffql.LiveHost.liveHostable) hread
  | liveHosting volume ownerId ownerUsername =>
      have hread : Reads LiveHosting.fromJson liveHostSelection
          (LiveHost.value ⟨.liveHosting volume ownerId ownerUsername, address, others⟩)
          { address, volume := volume.value, ownerId, ownerUsername } := by
        refine bind_eq_ok (getValueTo_execute rfl (by decide) (Reads.leaf rfl)) ?_
        refine bind_eq_ok (getValueTo_execute rfl (by decide) (Reads.leaf volume.reads)) ?_
        refine bind_eq_ok (getValueTo_execute rfl (by decide) (Reads.leaf rfl)) ?_
        refine bind_eq_ok (getValueTo_execute rfl (by decide) (Reads.leaf rfl)) ?_
        rfl
      exact congrArg (Functor.map Caffql.LiveHost.liveHosting) hread
  | other name hname =>
      have hread : Reads UnknownLiveHost.fromJson liveHostSelection
          (LiveHost.value ⟨.other name hname, address, others⟩) { address } :=
        bind_eq_ok (getValueTo_execute rfl (by decide) (Reads.leaf rfl)) rfl
      show (if name = "LiveHostable" then _ else if name = "LiveHosting" then _ else _) = _
      rw [if_neg hname.1, if_neg hname.2]
      exact congrArg (Functor.map Caffql.LiveHost.unknownLiveHost) hread

/-- a stream of any type, -/
theorem reads_stream (stream : Stream) :
    Reads Caffql.Stream.fromJson streamSelection stream.value stream.view := by
  rcases stream with ⟨type, id, url, others⟩
  refine bind_eq_ok (Reads.typename rfl) ?_
  cases type with
  | broadcasterStream sdpAnswer =>
      have hread : Reads BroadcasterStream.fromJson streamSelection
          (Stream.value ⟨.broadcasterStream sdpAnswer, id, url, others⟩)
          { id, url, sdpAnswer } := by
        refine bind_eq_ok (getValueTo_execute rfl (by decide) (Reads.leaf rfl)) ?_
        refine bind_eq_ok (getValueTo_execute rfl (by decide) (Reads.leaf rfl)) ?_
        refine bind_eq_ok (getValueTo_execute rfl (by decide) (Reads.leaf rfl)) ?_
        rfl
      exact congrArg (Functor.map Caffql.Stream.broadcasterStream) hread
  | viewerStream sdpOffer =>
      have hread : Reads ViewerStream.fromJson streamSelection
          (Stream.value ⟨.viewerStream sdpOffer, id, url, others⟩) { id, url, sdpOffer } := by
        refine bind_eq_ok (getValueTo_execute rfl (by decide) (Reads.leaf rfl)) ?_
        refine bind_eq_ok (getValueTo_execute rfl (by decide) (Reads.leaf rfl)) ?_
        refine bind_eq_ok (getValueTo_execute rfl (by decide) (Reads.leaf rfl)) ?_
        rfl
      exact congrArg (Functor.map Caffql.Stream.viewerStream) hread
  | other name hname =>
      have hread : Reads UnknownStream.fromJson streamSelection
          (Stream.value ⟨.other name hname, id, url, others⟩) { id, url } := by
        refine bind_eq_ok (getValueTo_execute rfl (by decide) (Reads.leaf rfl)) ?_
        refine bind_eq_ok (getValueTo_execute rfl (by decide) (Reads.leaf rfl)) ?_
        rfl
      show (if name = "BroadcasterStream" then _ else if name = "ViewerStream" then _ else _) = _
      rw [if_neg hname.1, if_neg hname.2]
      exact congrArg (Functor.map Caffql.Stream.unknownStream) hread

/-- a feed, -/
theorem reads_feed (feed : Feed) :
    Reads Caffql.Feed.fromJson feedSelection feed.value feed.view := by
  refine bind_eq_ok (getValueTo_execute rfl (by decide) (Reads.leaf rfl)) ?_
  refine bind_eq_ok (getValueTo_execute rfl (by decide) (Reads.leaf rfl)) ?_
  refine bind_eq_ok (getEnum_execute rfl (by decide) rfl (ClientType.fromJson_string _)) ?_
  refine bind_eq_ok (optionalMember_string_execute rfl (by decide) rfl) ?_
  refine bind_eq_ok
    (getEnum_execute rfl (by decide) rfl (SourceConnectionQuality.fromJson_string _)) ?_
  refine bind_eq_ok (getEnums_execute rfl (by decide) rfl Capability.fromJson_string) ?_
  refine bind_eq_ok (getEnum_execute rfl (by decide) rfl (Role.fromJson_string _)) ?_
  refine bind_eq_ok (getEnums_execute rfl (by decide) rfl Restriction.fromJson_string) ?_
  refine bind_eq_ok (optionalMember_execute rfl (by decide) rfl (fun _ => ?_) reads_liveHost) ?_
  · exact Json.noConfusion
  refine bind_eq_ok (getValueTo_execute rfl (by decide) (reads_stream feed.stream)) ?_
  rfl

/-- a stage, -/
theorem reads_stage (stage : Stage) :
    Reads Caffql.Stage.fromJson stageSelection stage.value stage.view := by
  refine bind_eq_ok (getValueTo_execute rfl (by decide) (Reads.leaf rfl)) ?_
  refine bind_eq_ok (getValueTo_execute rfl (by decide) (Reads.leaf rfl)) ?_
  refine bind_eq_ok (getValueTo_execute rfl (by decide) (Reads.leaf rfl)) ?_
  refine bind_eq_ok (getValueTo_execute rfl (by decide) (Reads.leaf rfl)) ?_
  refine bind_eq_ok (optionalMember_string_execute rfl (by decide) rfl) ?_
  refine bind_eq_ok
    (optionalMember_execute rfl (by decide) rfl (fun _ => ?_) reads_controllingClient) ?_
  · exact Json.noConfusion
  refine bind_eq_ok (getValueTo_execute rfl (by decide) (Reads.list reads_feed stage.feeds)) ?_
  rfl

/-- and the payload of an operation on a stage -/
theorem reads_stagePayload (payload : StagePayload) :
    Reads StageFields.fromJson stageResultSelection payload.value payload.view := by
  refine bind_eq_ok (optionalMember_execute rfl (by decide) rfl (fun _ => ?_) reads_error) ?_
  · exact Json.noConfusion
  refine bind_eq_ok (getValueTo_execute rfl (by decide) (reads_stage payload.stage)) ?_
  rfl

/-- or on a feed. -/
theorem reads_feedPayload (payload : FeedPayload) :
    Reads AddFeedPayload.fromJson feedResultSelection payload.value payload.view := by
  refine bind_eq_ok (optionalMember_execute rfl (by decide) rfl (fun _ => ?_) reads_error) ?_
  · exact Json.noConfusion
  refine bind_eq_ok (getValueTo_execute rfl (by decide) (reads_stage payload.stage)) ?_
  refine bind_eq_ok (getValueTo_execute rfl (by decide) (reads_feed payload.feed)) ?_
  rfl

end Server

/-! ## The operations -/

namespace OperationField

/-- What the server resolves the field of an operation to. -/
abbrev ServerData : OperationField → Type
  | addFeed | updateFeed => Server.FeedPayload
  | changeStageTitle | startBroadcast | stopBroadcast | stageSubscription => Server.StagePayload

/-- Its value. -/
def ServerData.value : {field : OperationField} → field.ServerData → Value
  | addFeed, payload | updateFeed, payload => Server.FeedPayload.value payload
  | changeStageTitle, payload | startBroadcast, payload | stopBroadcast, payload
  | stageSubscription, payload => Server.StagePayload.value payload

/-- What the client is to see of it. -/
def ServerData.view : {field : OperationField} → field.ServerData → field.ResponseData
  | addFeed, payload | updateFeed, payload => Server.FeedPayload.view payload
  | changeStageTitle, payload | startBroadcast, payload | stopBroadcast, payload
  | stageSubscription, payload => Server.StagePayload.view payload

/-- The response to an operation that ends with `answer`. -/
def respond (field : OperationField) (answer : Answer field.ServerData)
    (extensions : Option Json) : Json :=
  field.operation.respond ServerData.value extensions answer

/-- What the client is to take out of it. -/
def answerView (field : OperationField) :
    Answer field.ServerData → GraphqlResponse field.ResponseData
  | .resolved payload => .data payload.view
  | .failed errors _ => .errors (errors.map fun error => { message := error.message })

/-- The reader of the payload. -/
def fromJson : (field : OperationField) → Json → Access field.ResponseData
  | addFeed | updateFeed => AddFeedPayload.fromJson
  | changeStageTitle | startBroadcast | stopBroadcast | stageSubscription => StageFields.fromJson

/-- All the operations read their responses in the same way. -/
theorem response_eq (field : OperationField) :
    field.response = Caffql.response field.operation.field field.fromJson := by
  cases field with
  | _ => rfl

/-- The payload of every operation is read as it is to be seen. -/
theorem reads_payload {field : OperationField} (payload : field.ServerData) :
    Reads field.fromJson field.operation.set payload.value payload.view := by
  cases field with
  | addFeed => exact Server.reads_feedPayload payload
  | updateFeed => exact Server.reads_feedPayload payload
  | changeStageTitle => exact Server.reads_stagePayload payload
  | startBroadcast => exact Server.reads_stagePayload payload
  | stopBroadcast => exact Server.reads_stagePayload payload
  | stageSubscription => exact Server.reads_stagePayload payload

/-- Of an error of the whole operation the message is read. -/
theorem mapM_requestError (errors : List RequestError) :
    (errors.map RequestError.json).mapM GraphqlError.fromJson =
      .ok (errors.map fun error => { message := error.message }) := by
  induction errors with
  | nil => rfl
  | cons error errors ih =>
      rw [List.map_cons, List.mapM_cons, ih]
      rfl

/-- What the library takes out of the response to an operation that is resolved, -/
theorem response_resolved {field : OperationField} (payload : field.ServerData)
    (extensions : Option Json) :
    field.response (field.respond (.resolved payload) extensions) = .ok (.data payload.view) := by
  have hvalue : (Json.object [(field.operation.field,
      field.operation.set.execute payload.value)]).atKey field.operation.field =
        .ok (field.operation.set.execute payload.value) :=
    atKey_eq_ok_iff.mpr List.lookup_cons_self
  have hdata := congrArg (Functor.map GraphqlResponse.data) (reads_payload payload)
  rw [response_eq]
  cases extensions with
  | none => exact bind_eq_ok rfl (bind_eq_ok hvalue hdata)
  | some extensions => exact bind_eq_ok rfl (bind_eq_ok hvalue hdata)

/-- and to one that is not: the errors are looked for first, so that partial data is not
read. -/
theorem response_failed {field : OperationField} (errors : List RequestError)
    (data : Option Json) (extensions : Option Json) :
    field.response (field.respond (.failed errors data) extensions) =
      .ok (.errors (errors.map fun error => { message := error.message })) := by
  rw [response_eq]
  exact congrArg (Functor.map GraphqlResponse.errors) (mapM_requestError errors)

/-- **The operations preserve what the server holds.**  Whatever that is, and however an
operation ends, the library takes out of the response exactly what it is to see. -/
theorem response_respond {field : OperationField} (answer : Answer field.ServerData)
    (extensions : Option Json) :
    field.response (field.respond answer extensions) = .ok (field.answerView answer) := by
  cases answer with
  | resolved payload => exact response_resolved payload extensions
  | failed errors data => exact response_failed errors data extensions

/-- The payload that a request returns. -/
def answerPayload (field : OperationField) :
    Answer field.ServerData → Option field.ResponseData
  | .resolved payload => some payload.view
  | .failed _ _ => none

/-- `graphqlRequest` returns the payload, if there is no error. -/
theorem unpack_respond {field : OperationField} (answer : Answer field.ServerData)
    (extensions : Option Json) :
    unpack field.response (some (field.respond answer extensions)) =
      field.answerPayload answer := by
  unfold unpack
  cases answer with
  | resolved payload =>
      dsimp only
      rw [response_resolved]
      rfl
  | failed errors data =>
      dsimp only
      rw [response_failed]
      rfl

end OperationField

end Caff.Caffql
