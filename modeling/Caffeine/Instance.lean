/-
# The API calls of an instance

The members of `src/Instance.hpp` that hold the signed-in user and the current
broadcast, and the member functions that change them: `signIn`, `refreshAuth`,
`signOut`, `startBroadcast` and `endBroadcast`, with the C functions of
`src/Caffeine.cpp` around the first, second and fourth.  A call is run by one
thread here; the interleaving of calls with the threads of a broadcast is the
matter of other files.

Every call makes its requests in the environment it is given.  Nothing is said of a
call that comes to an undefined access to a response document.
-/
import Caffeine.Policy
import Caffeine.RestApi

namespace Caff

open Http

/-! ## Broadcasts as the instance sees them -/

/-- What `Broadcast::start` selects for its thread. -/
structure Targets where
  targetMaxBitrate : ℤ := maxBitsPerSecond
  targetFps : ℤ := maxFps
  targetFrameHeight : ℤ := maxFrameHeight
  targetFrameWidth : ℤ := maxFrameWidth
  deriving DecidableEq, Repr

/-- The selection in `Broadcast::start`: framerate and frame size are raised only
along with the bitrate. -/
def selectTargets (info : Option EncoderInfoResponse) : Targets :=
  match info with
  | none => {}
  | some info =>
      if info.setting.targetBitrate > maxBitsPerSecond then
        let raised : Targets :=
          { targetMaxBitrate := info.setting.targetBitrate
            targetFps :=
              if info.setting.framerate > maxFps then info.setting.framerate else maxFps }
        if info.setting.height > maxFrameHeight ∧
            checkAspectRatio info.setting.width info.setting.height = .success then
          { raised with
            targetFrameWidth := info.setting.width
            targetFrameHeight := info.setting.height }
        else raised
      else {}

/-- The broadcast in the slot of the instance: what it was constructed from, and
what its thread was started with, if it was. -/
structure BroadcastSlot where
  username : String
  title : Bytes
  rating : Rating
  gameId : Bytes
  targets : Option Targets := none
  deriving DecidableEq, Repr

/-! ## The instance -/

structure Instance where
  sharedCredentials : Option Credentials := none
  refreshToken : Option String := none
  userInfo : Option UserInfo := none
  broadcast : Option BroadcastSlot := none
  deriving DecidableEq, Repr

namespace Instance

def isSignedIn (i : Instance) : Bool := i.sharedCredentials.isSome && i.userInfo.isSome

def canBroadcast (i : Instance) : Bool :=
  match i.userInfo with
  | some userInfo => userInfo.canBroadcast
  | none => false

/-- `endBroadcast`: the slot is emptied once the broadcast has been stopped. -/
def endBroadcast (i : Instance) : Instance := { i with broadcast := none }

def signOut (i : Instance) : Instance :=
  { i.endBroadcast with sharedCredentials := none, refreshToken := none, userInfo := none }

end Instance

/-- A request on `*sharedCredentials`: a refresh inside of it is seen by the
instance, whether the request returns or throws. -/
def onSharedCredentials {α : Type} (request : Http Credentials α) : Http Instance α := fun env s =>
  match s.state.sharedCredentials with
  | none => (.error (.fault .undefined), s)
  | some credentials =>
      let r := request env ⟨s.asked, credentials⟩
      (r.1, ⟨r.2.asked, { s.state with sharedCredentials := some r.2.state }⟩)

theorem onSharedCredentials_apply {α : Type} {request : Http Credentials α} {env : Environment}
    {s : Session Instance} {c : Credentials} (hc : s.state.sharedCredentials = some c)
    {x : Except Stop α} {t : Session Credentials} (h : request env ⟨s.asked, c⟩ = (x, t)) :
    onSharedCredentials request env s =
      (x, ⟨t.asked, { s.state with sharedCredentials := some t.state }⟩) := by
  simp only [onSharedCredentials, hc, h]

/-- Conditions that do not look at the credentials hold through such a request. -/
theorem triple_onSharedCredentials {α : Type} {env : Environment} {I : Instance → Prop}
    (hI : ∀ i c, I i → I { i with sharedCredentials := some c }) (request : Http Credentials α) :
    Triple env (fun s => I s.state) (onSharedCredentials request) (fun _ s => I s.state)
      (fun s => I s.state) := by
  intro s hs
  rcases hc : s.state.sharedCredentials with _ | c
  · simp only [onSharedCredentials, hc]
    exact ⟨fun _ _ h => absurd (Prod.mk.inj h).1 (by simp), fun _ _ h => (Prod.mk.inj h).2 ▸ hs⟩
  · simp only [onSharedCredentials, hc]
    exact ⟨fun _ _ h => (Prod.mk.inj h).2 ▸ hI _ _ hs, fun _ _ h => (Prod.mk.inj h).2 ▸ hI _ _ hs⟩

namespace Instance

/-! ## Authentication -/

/-- The members `authenticate` sets before it asks for the user. -/
def setCredentials (credentials : Credentials) (i : Instance) : Instance :=
  { i with refreshToken := some credentials.refreshToken, sharedCredentials := some credentials }

def authenticate (authFunc : Http Instance AuthResponse) (depth : ℕ) : Http Instance Result := do
  let i ← get
  if i.broadcast.isSome then pure .alreadyBroadcasting
  else do
    let response ← authFunc
    match response.credentials with
    | none => pure response.result
    | some credentials => do
        modify (setCredentials credentials)
        let userInfo ← onSharedCredentials (getUserInfo depth)
        modify (fun i => { i with userInfo })
        if userInfo.isNone then do
          modify (fun i => { i with sharedCredentials := none, refreshToken := none })
          pure .failure
        else pure response.result

def signIn (username password : Bytes) (otp : Option Bytes) (depth : ℕ) : Http Instance Result :=
  authenticate (Caff.signIn username password otp) depth

def refreshAuth (refreshToken : Bytes) (depth : ℕ) : Http Instance Result :=
  authenticate (Caff.refreshAuth refreshToken) depth

/-! ## Starting a broadcast -/

/-- The user may broadcast, by what is known or by what the server now says. -/
def refreshCanBroadcast (depth : ℕ) : Http Instance Bool := do
  let i ← get
  if i.canBroadcast then pure true
  else do
    let newUserInfo ← onSharedCredentials (getUserInfo depth)
    match newUserInfo with
    | some userInfo =>
        if userInfo.canBroadcast then do
          modify (fun i => { i with userInfo := some userInfo })
          pure true
        else pure false
    | none => pure false

/-- `Broadcast::start`, up to the creation of the broadcast thread. -/
def start : Http Instance Unit := do
  let info ← getEncoderInfo
  modify (fun i =>
    { i with broadcast := i.broadcast.map ({ · with targets := some (selectTargets info) }) })

/-- The part of `startBroadcast` under `broadcastMutex`: the slot is filled before
the broadcast is started. -/
def startInSlot (title : Bytes) (rating : Rating) (gameId : Bytes) : Http Instance Result := do
  let i ← get
  if i.broadcast.isSome then pure .alreadyBroadcasting
  else
    match i.userInfo with
    | none => lift (.error .undefined)
    | some userInfo => do
        modify (fun i =>
          { i with broadcast := some { username := userInfo.username, title, rating, gameId } })
        start
        pure .success

def startBroadcast (title : Bytes) (rating : Rating) (gameId : Bytes) (depth : ℕ) :
    Http Instance Result := do
  let i ← get
  if !i.isSignedIn then pure .notSignedIn
  else do
    let version ← checkVersion
    if version = .oldVersion then pure .oldVersion
    else do
      let allowed ← refreshCanBroadcast depth
      if allowed then startInSlot title rating gameId
      else pure .emailVerificationRequired

end Instance

/-! ## The C functions -/

/-- `CATCHALL_RETURN(ret)`: the result of the call and the instance it leaves, if
the call comes back at all.  An undefined access is no exception, and nothing is
known behind it. -/
def catchAll (ret : Result) (request : Http Instance Result) (env : Environment) (i : Instance) :
    Option (Result × Instance) :=
  match request env (Session.start i) with
  | (.ok result, s) => some (result, s.state)
  | (.error (.fault .undefined), _) => none
  | (.error (.fault _), s) => some (ret, s.state)
  | (.error .outOfDepth, _) => none

section

variable {ret result : Result} {request : Http Instance Result} {env : Environment}
  {i i' : Instance} {s : Session Instance}

theorem catchAll_of_ok {v : Result} (h : request env (Session.start i) = (.ok v, s))
    (hcall : catchAll ret request env i = some (result, i')) : result = v ∧ i' = s.state := by
  rw [catchAll, h] at hcall
  simp only [Option.some.injEq, Prod.mk.injEq] at hcall
  exact ⟨hcall.1.symm, hcall.2.symm⟩

/-- A call whose body throws comes back with the result for exceptions. -/
theorem catchAll_of_error {e : Stop} (h : request env (Session.start i) = (.error e, s))
    (hcall : catchAll ret request env i = some (result, i')) : result = ret ∧ i' = s.state := by
  rw [catchAll, h] at hcall
  rcases e with (_ | _ | _) | _
  · simp only [Option.some.injEq, Prod.mk.injEq] at hcall
    exact ⟨hcall.1.symm, hcall.2.symm⟩
  · simp only [Option.some.injEq, Prod.mk.injEq] at hcall
    exact ⟨hcall.1.symm, hcall.2.symm⟩
  · cases hcall
  · cases hcall

/-- A call whose body comes to no undefined access comes back, if its recursions end. -/
theorem exists_of_catchAll
    (hdefined : (request env (Session.start i)).1 ≠ .error (.fault .undefined))
    (hdepth : (request env (Session.start i)).1 ≠ .error .outOfDepth) :
    ∃ result i', catchAll ret request env i = some (result, i') := by
  unfold catchAll
  rcases h : request env (Session.start i) with ⟨((_ | _ | _) | _) | v, s⟩
  · exact ⟨_, _, rfl⟩
  · exact ⟨_, _, rfl⟩
  · exact absurd (by rw [h]) hdefined
  · exact absurd (by rw [h]) hdepth
  · exact ⟨_, _, rfl⟩

/-- What a call is known to do to the instance, from the triple of its body. -/
theorem catchAll_of_triple {I : Instance → Prop}
    (h : Triple env (fun s => I s.state) request (fun _ s => I s.state) (fun s => I s.state))
    (hi : I i) (hcall : catchAll ret request env i = some (result, i')) : I i' := by
  rcases hr : request env (Session.start i) with ⟨e | v, s⟩
  · rw [(catchAll_of_error hr hcall).2]
    exact (h _ hi).2 e s hr
  · rw [(catchAll_of_ok hr hcall).2]
    exact (h _ hi).1 v s hr

end

/-- One of the three pings is answered. -/
def checkInternetConnection (pings : List Bool) : Result :=
  if pings.any id then .success else .internetDisconnected

def caffSignIn (pings : List Bool) (username password : Bytes) (otp : Option Bytes) (depth : ℕ)
    (env : Environment) (i : Instance) : Option (Result × Instance) :=
  if username.isEmpty then some (.usernameRequired, i)
  else if password.isEmpty then some (.passwordRequired, i)
  else if checkInternetConnection pings = .internetDisconnected then
    some (.internetDisconnected, i)
  else catchAll .failure (Instance.signIn username password otp depth) env i

/-- Either the arguments or the connection are refused, or the request is made. -/
theorem caffSignIn_cases {pings : List Bool} {username password : Bytes} {otp : Option Bytes}
    {depth : ℕ} {env : Environment} {i i' : Instance} {result : Result}
    (h : caffSignIn pings username password otp depth env i = some (result, i')) :
    (i' = i ∧ ¬ (username.isEmpty = false ∧ password.isEmpty = false ∧
      checkInternetConnection pings ≠ .internetDisconnected)) ∨
    (username.isEmpty = false ∧ password.isEmpty = false ∧
      checkInternetConnection pings ≠ .internetDisconnected) ∧
      catchAll .failure (Instance.signIn username password otp depth) env i =
        some (result, i') := by
  rw [caffSignIn] at h
  split_ifs at h with hu hp hnet
  · exact .inl ⟨(Prod.mk.inj (Option.some.inj h)).2.symm, by simp [hu]⟩
  · exact .inl ⟨(Prod.mk.inj (Option.some.inj h)).2.symm, by simp [hp]⟩
  · exact .inl ⟨(Prod.mk.inj (Option.some.inj h)).2.symm, by simp [hnet]⟩
  · exact .inr ⟨⟨by simpa using hu, by simpa using hp, hnet⟩, h⟩

def caffRefreshAuth (refreshToken : Bytes) (depth : ℕ) (env : Environment) (i : Instance) :
    Option (Result × Instance) :=
  if refreshToken.isEmpty then some (.refreshTokenRequired, i)
  else catchAll .failure (Instance.refreshAuth refreshToken depth) env i

theorem caffRefreshAuth_cases {refreshToken : Bytes} {depth : ℕ} {env : Environment}
    {i i' : Instance} {result : Result}
    (h : caffRefreshAuth refreshToken depth env i = some (result, i')) :
    (i' = i ∧ ¬ refreshToken.isEmpty = false) ∨ refreshToken.isEmpty = false ∧
      catchAll .failure (Instance.refreshAuth refreshToken depth) env i = some (result, i') := by
  rw [caffRefreshAuth] at h
  split_ifs at h with ht
  · exact .inl ⟨(Prod.mk.inj (Option.some.inj h)).2.symm, by simp [ht]⟩
  · exact .inr ⟨by simpa using ht, h⟩

def caffStartBroadcast (title : Bytes) (rating : Rating) (gameId : Bytes) (depth : ℕ)
    (env : Environment) (i : Instance) : Option (Result × Instance) :=
  catchAll .broadcastFailed (Instance.startBroadcast title rating gameId depth) env i

end Caff
