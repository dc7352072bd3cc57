/-
# The REST wrappers

The request functions of `src/RestApi.cpp`, each with the `do...` function it
retries: `checkVersion`, `signIn`, `refreshAuth`, `refreshCredentials`,
`getUserInfo`, `getSupportedGames`, `heartbeatStream` and `getEncoderInfo`, which
walk a JSON response, and `trickleCandidates`, `updateScreenshot` and
`graphqlRawRequest`, which do not.  The functions that refresh their credentials
call themselves again after a status 401 and a successful refresh; `depth` bounds
how far the model follows that recursion.

Requests that carry credentials work on the shared `Credentials`, which a
refresh overwrites.  The log calls are left out, and so is the request itself,
except that serialising it throws on bytes that are not UTF-8.
-/
import Caffeine.Http
import Caffeine.Serialization

namespace Caff

open Http

variable {σ T : Type}

/-! ## What the request functions share -/

/-- Parse the body under its own `catch (...)`, then walk the document outside
of any `try`. -/
def readBody (o : HttpOutcome) (unparsable : Retryable T)
    (walk : Json → Json.Access (Retryable T)) : Http σ (Retryable T) := do
  let parsed ← parseBody o
  match parsed with
  | none => pure unparsable
  | some responseJson => lift (walk responseJson)

/-- `requestJson.dump()` for a request made of these texts: the strict error
handler throws on invalid UTF-8. -/
def dump (texts : List Bytes) : Json.Access Unit :=
  if texts.all isUtf8 then .ok () else .error (.typeError 316)

/-! ## Version check -/

/-- The walk of `doCheckVersion` through the response document. -/
def readVersion (responseJson : Json) : Json.Access (Retryable Result) :=
  match responseJson.find "errors" with
  | some errors => do
      let _ ← errorText errors "_expired"
      pure (complete .oldVersion)
  | none => pure (complete .success)

def doCheckVersion : Http σ (Retryable Result) := do
  let o ← exchange .versionCheck
  if o.curlResult ≠ .ok then pure (retry .failure)
  else readBody o (retry .failure) readVersion

def checkVersion : Http σ Result := fun env s =>
  if env.clientType.isEmpty ∨ env.clientVersion.isEmpty then (.ok .failure, s)
  else retryRequest .success doCheckVersion env s

/-! ## Authentication -/

/-- The texts of the sign-in request; an absent or empty one-time password is
not sent. -/
def signInTexts (username password : Bytes) (otp : Option Bytes) : List Bytes :=
  match otp with
  | some otp => if otp.isEmpty then [username, password] else [username, password, otp]
  | none => [username, password]

/-- `otp && *otp`. -/
def hasOtp (otp : Option Bytes) : Bool :=
  match otp with
  | some otp => !otp.isEmpty
  | none => false

/-- The answer for the `next` step of a sign-in. -/
def nextStep (next : String) : AuthResponse :=
  if next = "mfa_otp_required" then { result := .mfaOtpRequired }
  else if next = "legal_acceptance_required" then { result := .legalAcceptanceRequired }
  else if next = "email_verification" then { result := .emailVerificationRequired }
  else {}

/-- The walk of `doSignIn` through the response document. -/
def readSignIn (otp : Option Bytes) (responseJson : Json) : Json.Access (Retryable AuthResponse) :=
  match responseJson.find "errors" with
  | some errors =>
      match errors.find "otp" with
      | some otpError => do
          let text ← otpError.atIndex 0
          let _ ← text.getString
          pure (complete { result := if hasOtp otp then .mfaOtpIncorrect else .mfaOtpRequired })
      | none => do
          let _ ← errorText errors "_error"
          pure (complete {})
  | none =>
      match responseJson.find "credentials" with
      | some creds => do
          -- the converting constructor of `optional`: the value itself is converted
          let credentials ← Credentials.fromJson creds
          pure (complete { result := .success, credentials := some credentials })
      | none =>
          match responseJson.find "next" with
          | some next => do
              let next ← next.getStringRef
              pure (complete (nextStep next))
          | none => pure (complete {})

def doSignIn (username password : Bytes) (otp : Option Bytes) :
    Http σ (Retryable AuthResponse) := do
  lift (dump (signInTexts username password otp))
  let o ← exchange .signIn
  if o.curlResult ≠ .ok then pure (complete {})
  else if o.responseCode = 401 then pure (complete { result := .infoIncorrect })
  else readBody o (complete {}) (readSignIn otp)

def signIn (username password : Bytes) (otp : Option Bytes) : Http σ AuthResponse :=
  retryRequest {} (doSignIn username password otp)

/-- The walk of `doRefreshAuth` through the response document. -/
def readRefreshAuth (responseJson : Json) : Json.Access (Retryable AuthResponse) :=
  match responseJson.find "errors" with
  | some errors => do
      let _ ← errorText errors "_error"
      pure (complete {})
  | none =>
      match responseJson.find "credentials" with
      | some creds => do
          let credentials ← Credentials.fromJson creds
          pure (complete { result := .success, credentials := some credentials })
      | none => pure (complete {})

def doRefreshAuth (refreshToken : Bytes) : Http σ (Retryable AuthResponse) := do
  lift (dump [refreshToken])
  let o ← exchange .refreshToken
  if o.curlResult ≠ .ok then pure (complete {})
  else if o.responseCode = 401 then pure (complete { result := .infoIncorrect })
  else readBody o (complete {}) readRefreshAuth

def refreshAuth (refreshToken : Bytes) : Http σ AuthResponse :=
  retryRequest {} (doRefreshAuth refreshToken)

/-- The C string cut from the token differs from it only past a NUL character,
which does not matter to what the model makes of the request. -/
def refreshCredentials : Http Credentials Bool := do
  let creds ← get
  let response ← refreshAuth (toBytes creds.refreshToken)
  match response.credentials with
  | some credentials => do
      modify (fun _ => credentials)
      pure true
  | none => pure false

/-! ## Requests with credentials -/

/-- The shape of the requests with credentials: on a status 401 they refresh the
credentials and call themselves again.  `unreachable` is the result after a
transport failure, `refused` after a refused refresh, and `answer` deals with
any other status. -/
def authorizedRequest (e : Endpoint) (unreachable refused : Retryable T)
    (answer : HttpOutcome → Http Credentials (Retryable T)) :
    ℕ → Http Credentials (Retryable T)
  | 0 => outOfDepth
  | depth + 1 => do
      let o ← exchange e
      if o.curlResult ≠ .ok then pure unreachable
      else if o.responseCode = 401 then do
        let refreshed ← refreshCredentials
        if refreshed then authorizedRequest e unreachable refused answer depth
        else pure refused
      else answer o

/-- The walk of `doGetUserInfo` through the response document. -/
def readUserInfo (responseJson : Json) : Json.Access (Retryable (Option UserInfo)) :=
  match responseJson.find "errors" with
  | some errors => do
      let _ ← errorText errors "_error"
      pure (complete none)
  | none =>
      match responseJson.find "user" with
      | some user => do
          let userInfo ← UserInfo.fromJson user
          pure (complete (some userInfo))
      | none => pure (complete none)

def doGetUserInfo : ℕ → Http Credentials (Retryable (Option UserInfo)) :=
  authorizedRequest .user (complete none) (complete none)
    (fun o => readBody o (complete none) readUserInfo)

def getUserInfo (depth : ℕ) : Http Credentials (Option UserInfo) :=
  retryRequest none (doGetUserInfo depth)

/-- The walk of `doHeartbeatStream` through the response document. -/
def readHeartbeat (responseJson : Json) : Json.Access (Retryable (Option HeartbeatResponse)) := do
  let response ← HeartbeatResponse.fromJson responseJson
  pure (complete (some response))

def doHeartbeatStream : ℕ → Http Credentials (Retryable (Option HeartbeatResponse)) :=
  authorizedRequest .heartbeat (complete none) (complete none)
    (fun o => if o.responseCode ≠ 200 then pure (complete none)
      else readBody o (complete none) readHeartbeat)

def heartbeatStream (depth : ℕ) : Http Credentials (Option HeartbeatResponse) :=
  retryRequest none (doHeartbeatStream depth)

/-- `responseCode / 100 == 2`. -/
def isSuccess (responseCode : ℤ) : Bool := responseCode.tdiv 100 = 2

/-- The texts of the request body. -/
def trickleTexts (candidates : List IceInfo) : List Bytes :=
  candidates.flatMap fun candidate => [candidate.sdp, candidate.sdpMid]

/-- Each call serialises its body first; the calls within one try serialise the same
body, so it is done once. -/
def doTrickleCandidates (candidates : List IceInfo) (depth : ℕ) :
    Http Credentials (Retryable Bool) := do
  lift (dump (trickleTexts candidates))
  authorizedRequest .trickle (retry false) (complete false)
    (fun o => if o.responseCode = 200 then pure (complete true) else pure (retry false)) depth

def trickleCandidates (candidates : List IceInfo) (depth : ℕ) : Http Credentials Bool :=
  retryRequest false (doTrickleCandidates candidates depth)

def doUpdateScreenshot : ℕ → Http Credentials (Retryable Bool) :=
  authorizedRequest .screenshot (retry false) (complete false)
    (fun o => if isSuccess o.responseCode then pure (complete true) else pure (retry false))

def updateScreenshot (depth : ℕ) : Http Credentials Bool :=
  retryRequest false (doUpdateScreenshot depth)

/-- `texts` are the strings in the request document.  The response is parsed under a
`catch (...)`. -/
def doGraphqlRawRequest (texts : List Bytes) (depth : ℕ) :
    Http Credentials (Retryable (Option Json)) := do
  lift (dump texts)
  authorizedRequest .graphql (retry none) (complete none)
    (fun o =>
      if isSuccess o.responseCode then do
        let parsed ← parseBody o
        pure (complete parsed)
      else pure (retry none)) depth

def graphqlRawRequest (texts : List Bytes) (depth : ℕ) : Http Credentials (Option Json) :=
  retryRequest none (doGraphqlRawRequest texts depth)

/-! ## Encoder information and games -/

/-- The walk of `doGetEncoderInfo` through the response document. -/
def readEncoderInfo (responseJson : Json) :
    Json.Access (Retryable (Option EncoderInfoResponse)) := do
  let info ← EncoderInfoResponse.fromJson responseJson
  pure (complete (some info))

/-- The status code is not looked at, and there is no refresh. -/
def doGetEncoderInfo : Http σ (Retryable (Option EncoderInfoResponse)) := do
  let o ← exchange .encoderInfo
  if o.curlResult ≠ .ok then pure (complete none)
  else readBody o (complete none) readEncoderInfo

def getEncoderInfo : Http σ (Option EncoderInfoResponse) :=
  retryRequest none doGetEncoderInfo

/-- The walk of `doGetSupportedGames` through the response document. -/
def readGameList (responseJson : Json) : Json.Access (Retryable (Option GameList)) :=
  match responseJson with
  | .array games => do
      let gameList ← games.mapM GameInfo.fromJson
      pure (complete (some gameList))
  | _ => pure (complete none)

def doGetSupportedGames : Http σ (Retryable (Option GameList)) := do
  let o ← exchange .games
  if o.curlResult ≠ .ok then pure (complete none)
  else readBody o (complete none) readGameList

def getSupportedGames : Http σ (Option GameList) :=
  retryRequest none doGetSupportedGames

end Caff
