/-
# Reading the REST types out of JSON documents

The `from_json` overloads of `src/Serialization.cpp` and the enumeration table
of `src/Serialization.hpp`.  Beside each reader stands the shape of the values
it goes through on; on any other value it throws, or, for the encoder
information, reads a missing member with the unchecked subscript.
-/
import Caffeine.Library.Json
import Caffeine.Types

namespace Caff

open Json

/-! ## Members -/

/-- `get_value_to(json, key, target)` for a target that is not optional. -/
def getValueTo {α : Type} (json : Json) (key : String) (get : Json → Access α) : Access α := do
  let value ← json.atKey key
  get value

theorem succeeds_getValueTo_iff {α : Type} {json : Json} {key : String} {get : Json → Access α}
    {P : Json → Prop} (hget : ∀ v, (get v).Succeeds ↔ P v) :
    (getValueTo json key get).Succeeds ↔ json.Has key P :=
  succeeds_atKey_bind_iff hget

theorem succeeds_getValueTo_string_iff {json : Json} {key : String} :
    (getValueTo json key getString).Succeeds ↔ json.Has key IsString :=
  succeeds_getValueTo_iff (fun _ => succeeds_getString_iff)

/-- A reader that takes one string. -/
theorem succeeds_getValueTo_string_pure_iff {α : Type} {json : Json} {key : String}
    {build : String → α} :
    (getValueTo json key getString >>= fun value => pure (build value)).Succeeds ↔
      json.Has key IsString := by
  have hread : (getValueTo json key getString >>= fun value => pure (build value)).Succeeds ↔
      (getValueTo json key getString).Succeeds ∧ True :=
    Except.succeeds_bind_of_forall fun _ => by simp
  rw [hread, succeeds_getValueTo_string_iff, and_true]

/-- `errors.at(key).at(0).get<std::string>()`, the text every wrapper takes out
of an error document. -/
def errorText (errors : Json) (key : String) : Access String := do
  let texts ← errors.atKey key
  let text ← texts.atIndex 0
  text.getString

theorem succeeds_errorText_iff {errors : Json} {key : String} :
    (errorText errors key).Succeeds ↔ errors.Has key StartsWithString :=
  succeeds_atKey_bind_iff (fun _ => succeeds_atIndex_zero_iff)

/-! ## The readers -/

def Credentials.fromJson (json : Json) : Access Credentials := do
  let accessToken ← getValueTo json "access_token" getString
  let refreshToken ← getValueTo json "refresh_token" getString
  let caid ← getValueTo json "caid" getString
  let credential ← getValueTo json "credential" getString
  pure { accessToken, refreshToken, caid, credential }

/-- The values `Credentials` are read from. -/
def CredentialsShape (json : Json) : Prop :=
  json.Has "access_token" IsString ∧ json.Has "refresh_token" IsString ∧
    json.Has "caid" IsString ∧ json.Has "credential" IsString

theorem succeeds_credentials_iff {json : Json} :
    (Credentials.fromJson json).Succeeds ↔ CredentialsShape json := by
  have hread : (Credentials.fromJson json).Succeeds ↔
      (getValueTo json "access_token" getString).Succeeds ∧
        (getValueTo json "refresh_token" getString).Succeeds ∧
        (getValueTo json "caid" getString).Succeeds ∧
        (getValueTo json "credential" getString).Succeeds ∧ True := by
    refine Except.succeeds_bind_of_forall fun _ => Except.succeeds_bind_of_forall fun _ => ?_
    refine Except.succeeds_bind_of_forall fun _ => Except.succeeds_bind_of_forall fun _ => ?_
    simp
  rw [hread, succeeds_getValueTo_string_iff, succeeds_getValueTo_string_iff,
    succeeds_getValueTo_string_iff, succeeds_getValueTo_string_iff, and_true]
  exact Iff.rfl

def UserInfo.fromJson (json : Json) : Access UserInfo := do
  let username ← getValueTo json "username" getString
  let canBroadcast ← getValueTo json "can_broadcast" getBool
  pure { username, canBroadcast }

/-- The values a `UserInfo` is read from. -/
def UserInfoShape (json : Json) : Prop :=
  json.Has "username" IsString ∧ json.Has "can_broadcast" IsBool

theorem succeeds_userInfo_iff {json : Json} :
    (UserInfo.fromJson json).Succeeds ↔ UserInfoShape json := by
  have hread : (UserInfo.fromJson json).Succeeds ↔
      (getValueTo json "username" getString).Succeeds ∧
        (getValueTo json "can_broadcast" getBool).Succeeds ∧ True := by
    refine Except.succeeds_bind_of_forall fun _ => Except.succeeds_bind_of_forall fun _ => ?_
    simp
  rw [hread, succeeds_getValueTo_string_iff,
    succeeds_getValueTo_iff (fun _ => succeeds_getBool_iff), and_true]
  exact Iff.rfl

/-- A process name is skipped if it is not a string or empty. -/
def readProcessName (json : Json) : Option String :=
  match json.getString with
  | .ok name => if name.isEmpty then none else some name
  | .error _ => none

def GameInfo.fromJson (json : Json) : Access GameInfo := do
  -- `size_t` is the library's unsigned number type, so a boolean is no id
  let idNum ← getValueTo json "id" getUnsigned
  let name ← getValueTo json "name" getString
  let processNames ← json.atKey "process_names"
  pure
    { id := toString idNum
      name
      processNames := processNames.elements.filterMap readProcessName }

/-- The values a `GameInfo` is read from. -/
def GameInfoShape (json : Json) : Prop :=
  json.Has "id" (IsNumberFor 0 (2 ^ 64)) ∧ json.Has "name" IsString ∧
    json.Has "process_names" (fun _ => True)

theorem succeeds_gameInfo_iff {json : Json} :
    (GameInfo.fromJson json).Succeeds ↔ GameInfoShape json := by
  have hread : (GameInfo.fromJson json).Succeeds ↔
      (getValueTo json "id" getUnsigned).Succeeds ∧ (getValueTo json "name" getString).Succeeds ∧
        json.Has "process_names" (fun _ => True) := by
    refine Except.succeeds_bind_of_forall fun _ => Except.succeeds_bind_of_forall fun _ => ?_
    exact succeeds_atKey_bind_iff (fun _ => by simp)
  rw [hread, succeeds_getValueTo_string_iff,
    succeeds_getValueTo_iff (fun _ => succeeds_getUnsigned_iff)]
  exact Iff.rfl

/-- The table of `NLOHMANN_JSON_SERIALIZE_ENUM(caff_ConnectionQuality, ...)`: an
unmatched value maps to the first entry. -/
def ConnectionQuality.fromJson : Json → ConnectionQuality
  | .string "GOOD" => .good
  | .string "POOR" => .poor
  | .null => .unknown
  | _ => .good

def HeartbeatResponse.fromJson (json : Json) : Access HeartbeatResponse := do
  let connectionQuality ← json.atKey "connection_quality"
  pure { connectionQuality := ConnectionQuality.fromJson connectionQuality }

/-- The values a `HeartbeatResponse` is read from. -/
def HeartbeatShape (json : Json) : Prop := json.Has "connection_quality" (fun _ => True)

theorem succeeds_heartbeat_iff {json : Json} :
    (HeartbeatResponse.fromJson json).Succeeds ↔ HeartbeatShape json :=
  succeeds_atKey_bind_iff (fun _ => by simp)

/-- `get_value_to(json["encoder_setting"], key, target)`: the unchecked subscript
is evaluated for each of the four members. -/
def getEncoderSetting (json : Json) (key : String) : Access ℤ := do
  let setting ← json.index "encoder_setting"
  getValueTo setting key getInt

/-- The value can be converted to an `int`. -/
def IsIntSetting (json : Json) : Prop := json.IsNumberFor (-2 ^ 31) (2 ^ 31) ∨ json.IsBool

theorem succeeds_getEncoderSetting_iff {json : Json} {key : String} :
    (getEncoderSetting json key).Succeeds ↔
      json.Has "encoder_setting" (·.Has key IsIntSetting) := by
  rw [getEncoderSetting, Except.succeeds_bind]
  simp only [index_eq_ok_iff, succeeds_getValueTo_iff (fun _ => succeeds_getInt_iff)]
  exact Iff.rfl

def EncoderInfoResponse.fromJson (json : Json) : Access EncoderInfoResponse := do
  let encoderType ← getValueTo json "encoder_type" getString
  let targetBitrate ← getEncoderSetting json "bitrate"
  let framerate ← getEncoderSetting json "framerate"
  let width ← getEncoderSetting json "width"
  let height ← getEncoderSetting json "height"
  pure { encoderType, setting := { width, height, targetBitrate, framerate } }

/-- The values an `EncoderInfoResponse` is read from. -/
def EncoderInfoShape (json : Json) : Prop :=
  json.Has "encoder_type" IsString ∧
    ∀ key ∈ ["bitrate", "framerate", "width", "height"],
      json.Has "encoder_setting" (·.Has key IsIntSetting)

theorem succeeds_encoderInfo_iff {json : Json} :
    (EncoderInfoResponse.fromJson json).Succeeds ↔ EncoderInfoShape json := by
  have hread : (EncoderInfoResponse.fromJson json).Succeeds ↔
      (getValueTo json "encoder_type" getString).Succeeds ∧
        (getEncoderSetting json "bitrate").Succeeds ∧
        (getEncoderSetting json "framerate").Succeeds ∧
        (getEncoderSetting json "width").Succeeds ∧
        (getEncoderSetting json "height").Succeeds ∧ True := by
    refine Except.succeeds_bind_of_forall fun _ => Except.succeeds_bind_of_forall fun _ => ?_
    refine Except.succeeds_bind_of_forall fun _ => Except.succeeds_bind_of_forall fun _ => ?_
    apply Except.succeeds_bind_of_forall
    intro _
    simp
  rw [hread, succeeds_getValueTo_string_iff, succeeds_getEncoderSetting_iff,
    succeeds_getEncoderSetting_iff, succeeds_getEncoderSetting_iff,
    succeeds_getEncoderSetting_iff, and_true]
  simp only [EncoderInfoShape, List.forall_mem_cons, List.not_mem_nil, false_implies,
    implies_true, and_true]

end Caff
