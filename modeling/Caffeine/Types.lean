/-
# The shared data types of the library

The enumerations of `include/caffeine.h` and the plain structures of
`src/RestApi.hpp`.  Strings that arrive inside a JSON document are valid UTF-8
(the parser checks it) and are `String`; strings the application passes in are
arbitrary bytes.
-/
import Mathlib.Data.List.Basic
import Mathlib.Data.Int.Basic
import Mathlib.Tactic.Common

namespace Caff

/-! ## Enumerations of `caffeine.h` -/

/-- `caff_Result`. -/
inductive Result
  | success
  | failure
  | usernameRequired
  | passwordRequired
  | refreshTokenRequired
  | infoIncorrect
  | legalAcceptanceRequired
  | emailVerificationRequired
  | mfaOtpRequired
  | mfaOtpIncorrect
  | oldVersion
  | notSignedIn
  | outOfCapacity
  | takeover
  | alreadyBroadcasting
  | aspectTooNarrow
  | aspectTooWide
  | disconnected
  | internetDisconnected
  | caffeineUnreachable
  | broadcastFailed
  deriving DecidableEq, Repr, Inhabited

/-- `caff_Rating`. -/
inductive Rating
  | none
  | seventeenPlus
  deriving DecidableEq, Repr, Inhabited

/-- `caff_ConnectionQuality`. -/
inductive ConnectionQuality
  | good
  | poor
  | unknown
  deriving DecidableEq, Repr, Inhabited

/-! ## Bytes -/

/-- The contents of a `std::string` or of a C string. -/
abbrev Bytes := List UInt8

/-- The bytes of a text. -/
def toBytes (s : String) : Bytes := s.toByteArray.data.toList

/-- The bytes are valid UTF-8. -/
def isUtf8 (b : Bytes) : Bool := b.toByteArray.validateUTF8

/-- The bytes of a text are valid UTF-8. -/
@[simp] theorem isUtf8_toBytes (s : String) : isUtf8 (toBytes s) = true := by
  have hbytes : (toBytes s).toByteArray = s.toByteArray := by
    apply ByteArray.ext
    rw [List.data_toByteArray, toBytes, Array.toArray_toList]
  rw [isUtf8, hbytes, ByteArray.validateUTF8_eq_true_iff]
  exact s.isValidUTF8

/-! ## Structures of `RestApi.hpp` -/

/-- `Credentials`. -/
structure Credentials where
  accessToken : String
  refreshToken : String
  caid : String
  credential : String
  deriving DecidableEq, Repr

structure AuthResponse where
  result : Result := .failure
  credentials : Option Credentials := none
  deriving DecidableEq, Repr

/-- `UserInfo`. -/
structure UserInfo where
  username : String
  canBroadcast : Bool
  deriving DecidableEq, Repr

/-- `GameInfo`. -/
structure GameInfo where
  id : String
  name : String
  processNames : List String
  deriving DecidableEq, Repr

abbrev GameList := List GameInfo

/-- `IceInfo`: a candidate. -/
structure IceInfo where
  sdp : Bytes
  sdpMid : Bytes
  sdpMLineIndex : ℤ
  deriving DecidableEq, Repr

/-- `HeartbeatResponse`. -/
structure HeartbeatResponse where
  connectionQuality : ConnectionQuality
  deriving DecidableEq, Repr

/-- `EncoderSettings`. -/
structure EncoderSettings where
  width : ℤ
  height : ℤ
  targetBitrate : ℤ
  framerate : ℤ
  deriving DecidableEq, Repr

structure EncoderInfoResponse where
  encoderType : String
  setting : EncoderSettings
  deriving DecidableEq, Repr

end Caff
