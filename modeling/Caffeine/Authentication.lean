/-
# The three members of a signed-in instance

`Instance::authenticate` sets `refreshToken` and `sharedCredentials`, asks the
server for the user in between, and sets `userInfo`.  If the server answers that
it knows no user, the members are reset; if the answer makes the JSON code
throw, the exception passes by the reset and is turned into `caff_ResultFailure`
at the C boundary.

This file follows the three members over every sequence of API calls and
background refreshes, against a server that is consistent about whom a token or
a username belongs to.  They stay all of one user or all absent as long as no
`getUserInfo` inside of an authentication throws, and a failing authentication
leaves them as they were or resets them; a call in which it does throw breaks
this unless the server had granted the very credentials that were already there.
-/
import Caffeine.Instance
import Caffeine.Library.Machine

namespace Caff

open Http

/-! ## A consistent server -/

/-- Whom the tokens and usernames of the server belong to, as `caid`. -/
structure Directory where
  holder : String → String
  account : String → String

/-- The credentials are those of `owner`. -/
def Directory.Owns (D : Directory) (owner : String) (c : Credentials) : Prop :=
  c.caid = owner ∧ D.holder c.refreshToken = owner

/-- In this environment the server deals with `owner` only: the credentials and
users it answers with are theirs. -/
structure Serves (D : Directory) (env : Environment) (owner : String) : Prop where
  credentials : ∀ e ∈ [Endpoint.signIn, Endpoint.refreshToken], ∀ n j creds c,
    env.document (env.outcomes e n) = some j → j.find "credentials" = some creds →
    Credentials.fromJson creds = .ok c → D.Owns owner c
  user : ∀ n j user userInfo,
    env.document (env.outcomes .user n) = some j → j.find "user" = some user →
    UserInfo.fromJson user = .ok userInfo → D.account userInfo.username = owner

/-! ## What the requests bring from a consistent server -/

/-- A response that is read out of a document with credentials. -/
theorem credentials_of_read {creds : Json} {r : Retryable AuthResponse} {c : Credentials}
    (h : (do
      let credentials ← Credentials.fromJson creds
      pure (complete { result := .success, credentials := some credentials }) :
        Json.Access (Retryable AuthResponse)) = .ok r)
    (hc : r.result.credentials = some c) :
    r.result.result = .success ∧ Credentials.fromJson creds = .ok c := by
  obtain ⟨c', hc', h⟩ := Except.exists_of_bind_eq_ok h
  rw [← Except.ok.inj h] at hc ⊢
  simp only [complete, Option.some.injEq] at hc
  exact ⟨rfl, hc ▸ hc'⟩

/-- A response that is made after an access, and without credentials. -/
theorem not_credentials_of_access {α : Type} {x : Json.Access α} {response : AuthResponse}
    {r : Retryable AuthResponse} {c : Credentials} (hnone : response.credentials = none)
    (h : (x >>= fun _ => pure (complete response) : Json.Access (Retryable AuthResponse)) = .ok r) :
    r.result.credentials ≠ some c := by
  obtain ⟨_, -, h⟩ := Except.exists_of_bind_eq_ok h
  rw [← Except.ok.inj h]
  simp [complete, hnone]

theorem readSignIn_credentials {otp : Option Bytes} {j : Json} {r : Retryable AuthResponse}
    {c : Credentials} (h : readSignIn otp j = .ok r) (hc : r.result.credentials = some c) :
    r.result.result = .success ∧
      ∃ creds, j.find "credentials" = some creds ∧ Credentials.fromJson creds = .ok c := by
  rw [readSignIn] at h
  -- the branches that do not read `credentials` return a response without
  split at h
  · split at h
    · obtain ⟨_, -, h⟩ := Except.exists_of_bind_eq_ok h
      exact absurd hc (not_credentials_of_access rfl h)
    · exact absurd hc (not_credentials_of_access rfl h)
  · split at h
    · rename_i creds hcreds
      obtain ⟨hresult, hread⟩ := credentials_of_read h hc
      exact ⟨hresult, creds, hcreds, hread⟩
    · split at h
      · obtain ⟨next, -, h⟩ := Except.exists_of_bind_eq_ok h
        rw [← Except.ok.inj h] at hc
        have hnone : (nextStep next).credentials = none := by
          unfold nextStep
          split_ifs <;> rfl
        simp [complete, hnone] at hc
      · rw [← Except.ok.inj h] at hc
        simp [complete] at hc

theorem readRefreshAuth_credentials {j : Json} {r : Retryable AuthResponse} {c : Credentials}
    (h : readRefreshAuth j = .ok r) (hc : r.result.credentials = some c) :
    r.result.result = .success ∧
      ∃ creds, j.find "credentials" = some creds ∧ Credentials.fromJson creds = .ok c := by
  unfold readRefreshAuth at h
  split at h
  · exact absurd hc (not_credentials_of_access rfl h)
  · split at h
    · rename_i creds hcreds
      obtain ⟨hresult, hread⟩ := credentials_of_read h hc
      exact ⟨hresult, creds, hcreds, hread⟩
    · rw [← Except.ok.inj h] at hc
      simp [complete] at hc

theorem readUserInfo_user {j : Json} {r : Retryable (Option UserInfo)} {userInfo : UserInfo}
    (h : readUserInfo j = .ok r) (hu : r.result = some userInfo) :
    ∃ user, j.find "user" = some user ∧ UserInfo.fromJson user = .ok userInfo := by
  unfold readUserInfo at h
  split at h
  · obtain ⟨_, -, h⟩ := Except.exists_of_bind_eq_ok h
    rw [← Except.ok.inj h] at hu
    simp [complete] at hu
  · split at h
    · rename_i user huser
      obtain ⟨u', hu', h⟩ := Except.exists_of_bind_eq_ok h
      rw [← Except.ok.inj h] at hu
      simp only [complete, Option.some.injEq] at hu
      exact ⟨user, huser, hu ▸ hu'⟩
    · rw [← Except.ok.inj h] at hu
      simp [complete] at hu

section Requests

variable {σ T : Type} {D : Directory} {env : Environment} {owner : String}

/-- Reading a body keeps every condition on the state, and its value is the one
for unparsable bodies or what the walk gives. -/
theorem triple_readBody {I : σ → Prop} {o : HttpOutcome} {unparsable : Retryable T}
    {walk : Json → Json.Access (Retryable T)} :
    Triple env (fun s => I s.state) (readBody o unparsable walk)
      (fun r s => (r = unparsable ∨ ∃ j, env.document o = some j ∧ walk j = .ok r) ∧ I s.state)
      (fun s => I s.state) := by
  intro s hs
  rw [readBody, parseBody_bind_apply]
  rcases hj : env.document o with _ | j
  · refine Triple.pure (P := fun s => I s.state) (fun s hs => ?_) s hs
    exact ⟨.inl rfl, hs⟩
  · refine Triple.weaken (Triple.lift (P := fun s => I s.state)) (fun _ hs => hs) ?_ s hs
    rintro r s ⟨hr, hs⟩
    exact ⟨.inr ⟨j, rfl, hr⟩, hs⟩

/-- Credentials in an authentication response are those of `owner`, and come with
`caff_ResultSuccess`. -/
def Issued (D : Directory) (owner : String) (response : AuthResponse) : Prop :=
  ∀ c, response.credentials = some c → response.result = .success ∧ D.Owns owner c

theorem issued_of_none {response : AuthResponse} (h : response.credentials = none) :
    Issued D owner response := by
  intro c hc
  rw [h] at hc
  cases hc

/-- The part of an authentication request after its exchange. -/
theorem triple_authReply {I : σ → Prop} {Q : AuthResponse → Prop} {o : HttpOutcome}
    {walk : Json → Json.Access (Retryable AuthResponse)}
    (hnone : ∀ r : AuthResponse, r.credentials = none → Q r)
    (hwalk : ∀ j r, env.document o = some j → walk j = .ok r → Q r.result) :
    Triple env (fun s => I s.state)
      (if o.curlResult ≠ .ok then pure (complete {})
        else if o.responseCode = 401 then pure (complete { result := .infoIncorrect })
        else readBody o (complete {}) walk)
      (fun r s => Q r.result ∧ I s.state) (fun s => I s.state) := by
  refine Triple.ite (fun _ => Triple.pure fun s hs => ⟨hnone _ rfl, hs⟩) fun _ => ?_
  refine Triple.ite (fun _ => Triple.pure fun s hs => ⟨hnone _ rfl, hs⟩) fun _ => ?_
  apply triple_readBody.weaken (fun _ hs => hs)
  rintro r s ⟨rfl | ⟨j, hj, hr⟩, hs⟩
  · exact ⟨hnone _ rfl, hs⟩
  · exact ⟨hwalk j r hj hr, hs⟩

/-- `signIn` leaves the state alone, and its response is one without credentials or
one that is read out of a document. -/
theorem triple_signIn {I : σ → Prop} {Q : AuthResponse → Prop} {username password : Bytes}
    {otp : Option Bytes} (hnone : ∀ r : AuthResponse, r.credentials = none → Q r)
    (hread : ∀ n j r, env.document (env.outcomes .signIn n) = some j → readSignIn otp j = .ok r →
      Q r.result) :
    Triple env (fun s => I s.state) (Caff.signIn username password otp)
      (fun r s => Q r ∧ I s.state) (fun s => I s.state) := by
  refine Triple.retryRequest (fun _ _ h => h.2) (Triple.bind Triple.lift fun _ => ?_)
  refine Triple.bind (Triple.exchange.weaken (fun _ h => h.2) fun _ _ h => h) fun o => ?_
  rintro s ⟨⟨n, rfl⟩, hI⟩
  exact triple_authReply hnone (hread n) s hI

theorem triple_refreshAuth {I : σ → Prop} {Q : AuthResponse → Prop} {refreshToken : Bytes}
    (hnone : ∀ r : AuthResponse, r.credentials = none → Q r)
    (hread : ∀ n j r, env.document (env.outcomes .refreshToken n) = some j →
      readRefreshAuth j = .ok r → Q r.result) :
    Triple env (fun s => I s.state) (Caff.refreshAuth refreshToken)
      (fun r s => Q r ∧ I s.state) (fun s => I s.state) := by
  refine Triple.retryRequest (fun _ _ h => h.2) (Triple.bind Triple.lift fun _ => ?_)
  refine Triple.bind (Triple.exchange.weaken (fun _ h => h.2) fun _ _ h => h) fun o => ?_
  rintro s ⟨⟨n, rfl⟩, hI⟩
  exact triple_authReply hnone (hread n) s hI

theorem triple_signIn_issued {I : σ → Prop} (hserves : Serves D env owner)
    {username password : Bytes} {otp : Option Bytes} :
    Triple env (fun s => I s.state) (Caff.signIn username password otp)
      (fun r s => Issued D owner r ∧ I s.state) (fun s => I s.state) := by
  apply triple_signIn (fun r => issued_of_none)
  intro n j r hj hr c hc
  obtain ⟨hresult, creds, hcreds, hread⟩ := readSignIn_credentials hr hc
  exact ⟨hresult, hserves.credentials .signIn (by decide) n j creds c hj hcreds hread⟩

theorem triple_refreshAuth_issued {I : σ → Prop} (hserves : Serves D env owner)
    {refreshToken : Bytes} :
    Triple env (fun s => I s.state) (Caff.refreshAuth refreshToken)
      (fun r s => Issued D owner r ∧ I s.state) (fun s => I s.state) := by
  apply triple_refreshAuth (fun r => issued_of_none)
  intro n j r hj hr c hc
  obtain ⟨hresult, creds, hcreds, hread⟩ := readRefreshAuth_credentials hr hc
  exact ⟨hresult, hserves.credentials .refreshToken (by decide) n j creds c hj hcreds hread⟩

/-- A refresh replaces credentials of `owner` by credentials of `owner`. -/
theorem triple_refreshCredentials (hserves : Serves D env owner) :
    Triple env (fun s => D.Owns owner s.state) refreshCredentials
      (fun _ s => D.Owns owner s.state) (fun s => D.Owns owner s.state) := by
  apply Triple.bind Triple.get
  intro creds
  refine ((triple_refreshAuth_issued (I := fun c => D.Owns owner c) hserves).weaken
    (fun s hs => hs.2) fun _ _ h => h).bind fun response => ?_
  rcases hc : response.credentials with _ | c
  · exact Triple.pure fun s hs => hs.2
  · refine Triple.bind (Q := fun _ s => D.Owns owner s.state) ?_ fun _ => Triple.pure fun _ hs => hs
    exact Triple.modify fun s hs => (hs.1 c hc).2

/-- `getUserInfo` keeps the credentials with `owner`, and the user it brings is
`owner`. -/
theorem triple_getUserInfo (hserves : Serves D env owner) (depth : ℕ) :
    Triple env (fun s => D.Owns owner s.state) (getUserInfo depth)
      (fun userInfo s => (∀ u, userInfo = some u → D.account u.username = owner) ∧
        D.Owns owner s.state)
      (fun s => D.Owns owner s.state) := by
  apply Triple.retryRequest (fun _ _ h => h.2)
  have hnone : ∀ s : Session Credentials, D.Owns owner s.state →
      (∀ u, (complete none : Retryable (Option UserInfo)).result = some u →
        D.account u.username = owner) ∧ D.Owns owner s.state := by
    intro s hs
    refine ⟨fun u hu => ?_, hs⟩
    cases hu
  rw [doGetUserInfo]
  -- the induction is on the refreshes the model follows
  induction depth with
  | zero =>
      intro s hs
      constructor
      · intro v s' h
        exact absurd (Prod.mk.inj h).1 (by simp)
      · intro e s' h
        rwa [← (Prod.mk.inj h).2]
  | succ depth ih =>
      refine Triple.bind (Triple.exchange (I := fun c => D.Owns owner c)) fun o => ?_
      refine Triple.ite (fun _ => Triple.pure fun s hs => hnone s hs.2) fun _ => ?_
      refine Triple.ite (fun _ => ?_) fun _ => ?_
      · -- status 401
        refine ((triple_refreshCredentials hserves).bind fun refreshed => ?_).weaken
          (fun s hs => hs.2) fun _ _ h => h
        exact Triple.ite (fun _ => ih) fun _ => Triple.pure hnone
      · intro s hs
        obtain ⟨⟨n, rfl⟩, hI⟩ := hs
        refine (triple_readBody (I := fun c => D.Owns owner c)).weaken (fun _ h => h) ?_ s hI
        rintro r t ⟨rfl | ⟨j, hj, hr⟩, ht⟩
        · exact hnone t ht
        · refine ⟨fun u hu => ?_, ht⟩
          obtain ⟨user, huser, hread⟩ := readUserInfo_user hr hu
          exact hserves.user n j user u hj huser hread

end Requests

/-! ## Sequences of calls -/

/-- The calls that touch the three members.  `refreshInBackground` stands for any
other request that refreshes the shared credentials on its way. -/
inductive ApiCall
  | signIn (pings : List Bool) (username password : Bytes) (otp : Option Bytes)
  | refreshAuth (refreshToken : Bytes)
  | signOut
  | startBroadcast (title : Bytes) (rating : Rating) (gameId : Bytes)
  | endBroadcast
  | refreshInBackground (credentials : Credentials)
  deriving DecidableEq, Repr

/-- A call, what it finds outside, and how deep the model follows its refreshes. -/
structure ApiStep where
  call : ApiCall
  env : Environment
  depth : ℕ

/-- The calls one after another; the output of a call is its result. -/
def apiMachine : Machine Instance ApiStep Result where
  step i a :=
    match a.call with
    | .signIn pings username password otp =>
        (caffSignIn pings username password otp a.depth a.env i).map fun r => (r.2, [r.1])
    | .refreshAuth refreshToken =>
        (caffRefreshAuth refreshToken a.depth a.env i).map fun r => (r.2, [r.1])
    | .signOut => some (i.signOut, [])
    | .startBroadcast title rating gameId =>
        (caffStartBroadcast title rating gameId a.depth a.env i).map fun r => (r.2, [r.1])
    | .endBroadcast => some (i.endBroadcast, [])
    | .refreshInBackground credentials =>
        if i.sharedCredentials.isSome then
          some ({ i with sharedCredentials := some credentials }, [])
        else none

/-! ## What a step can do -/

inductive ApiMoves (i : Instance) : ApiStep → Instance → List Result → Prop
  | signIn (pings : List Bool) (username password : Bytes) (otp : Option Bytes)
      (env : Environment) (depth : ℕ) (result : Result) (i' : Instance)
      (hcall : caffSignIn pings username password otp depth env i = some (result, i')) :
      ApiMoves i ⟨.signIn pings username password otp, env, depth⟩ i' [result]
  | refreshAuth (refreshToken : Bytes) (env : Environment) (depth : ℕ) (result : Result)
      (i' : Instance) (hcall : caffRefreshAuth refreshToken depth env i = some (result, i')) :
      ApiMoves i ⟨.refreshAuth refreshToken, env, depth⟩ i' [result]
  | signOut (env : Environment) (depth : ℕ) : ApiMoves i ⟨.signOut, env, depth⟩ i.signOut []
  | startBroadcast (title : Bytes) (rating : Rating) (gameId : Bytes) (env : Environment)
      (depth : ℕ) (result : Result) (i' : Instance)
      (hcall : caffStartBroadcast title rating gameId depth env i = some (result, i')) :
      ApiMoves i ⟨.startBroadcast title rating gameId, env, depth⟩ i' [result]
  | endBroadcast (env : Environment) (depth : ℕ) :
      ApiMoves i ⟨.endBroadcast, env, depth⟩ i.endBroadcast []
  | refreshInBackground (credentials : Credentials) (env : Environment) (depth : ℕ)
      (hsome : i.sharedCredentials.isSome = true) :
      ApiMoves i ⟨.refreshInBackground credentials, env, depth⟩
        { i with sharedCredentials := some credentials } []

/-- **Inversion of a step.** -/
theorem apiMoves_of_step {i i' : Instance} {a : ApiStep} {out : List Result}
    (h : apiMachine.step i a = some (i', out)) : ApiMoves i a i' out := by
  obtain ⟨call, env, depth⟩ := a
  cases call with
  | signIn pings username password otp =>
      simp only [apiMachine, Option.map_eq_some_iff, Prod.mk.injEq] at h
      obtain ⟨⟨r, j⟩, hcall, rfl, rfl⟩ := h
      exact .signIn pings username password otp env depth r j hcall
  | refreshAuth refreshToken =>
      simp only [apiMachine, Option.map_eq_some_iff, Prod.mk.injEq] at h
      obtain ⟨⟨r, j⟩, hcall, rfl, rfl⟩ := h
      exact .refreshAuth refreshToken env depth r j hcall
  | signOut => exact Machine.holds_of_some h (.signOut env depth)
  | startBroadcast title rating gameId =>
      simp only [apiMachine, Option.map_eq_some_iff, Prod.mk.injEq] at h
      obtain ⟨⟨r, j⟩, hcall, rfl, rfl⟩ := h
      exact .startBroadcast title rating gameId env depth r j hcall
  | endBroadcast => exact Machine.holds_of_some h (.endBroadcast env depth)
  | refreshInBackground credentials =>
      exact Machine.holds_of_guard h (.refreshInBackground credentials env depth)

/-- The server is consistent in this step: it deals with the user who signs in, or
with the one who is signed in. -/
def Honest (D : Directory) (i : Instance) (a : ApiStep) : Prop :=
  match a.call with
  | .signIn .. | .refreshAuth .. => ∃ owner, Serves D a.env owner
  | .startBroadcast .. => ∀ c, i.sharedCredentials = some c → Serves D a.env c.caid
  | .refreshInBackground credentials =>
      ∀ c, i.sharedCredentials = some c → D.Owns c.caid credentials
  | .signOut | .endBroadcast => True

/-- The call authenticates. -/
def Authenticates (a : ApiStep) : Prop :=
  match a.call with
  | .signIn .. | .refreshAuth .. => True
  | _ => False

/-! ## The property and its condition -/

/-- All three members are there, and belong to the same user. -/
def SameUser (D : Directory) (i : Instance) : Prop :=
  ∃ c token userInfo, i.sharedCredentials = some c ∧ i.refreshToken = some token ∧
    i.userInfo = some userInfo ∧ D.Owns c.caid c ∧ D.holder token = c.caid ∧
    D.account userInfo.username = c.caid

/-- None of the three members is there. -/
def SignedOut (i : Instance) : Prop :=
  i.sharedCredentials = none ∧ i.refreshToken = none ∧ i.userInfo = none

def Coherent (D : Directory) (i : Instance) : Prop := SameUser D i ∨ SignedOut i

/-- The three members are those of `i`. -/
def Unchanged (i i' : Instance) : Prop :=
  i'.sharedCredentials = i.sharedCredentials ∧ i'.refreshToken = i.refreshToken ∧
    i'.userInfo = i.userInfo

/-- A call from `i` to `i'` leaves the members coherent, and, if it does not succeed, as they
were or as those of a signed-out instance. -/
def SafeOutcome (D : Directory) (i : Instance) (result : Result) (i' : Instance) : Prop :=
  Coherent D i' ∧ (result ≠ .success → Unchanged i i' ∨ SignedOut i')

/-- If the authentication request brings credentials and `getUserInfo` then throws,
the instance already holds the credentials it would be left with. -/
def UserInfoComes (authFunc : Http Instance AuthResponse) (depth : ℕ) (env : Environment)
    (i : Instance) : Prop :=
  i.broadcast = none → ∀ response s c, authFunc env (Session.start i) = (.ok response, s) →
    response.credentials = some c → ∀ f t,
    getUserInfo depth env ⟨s.asked, c⟩ = (.error (.fault f), t) →
      i.sharedCredentials = some t.state ∧ i.refreshToken = some c.refreshToken

/-- The condition for a step: for an authenticating call that gets as far as its
request, `UserInfoComes`. -/
def Undisturbed (i : Instance) (a : ApiStep) : Prop :=
  match a.call with
  | .signIn pings username password otp =>
      username.isEmpty = false → password.isEmpty = false →
        checkInternetConnection pings ≠ .internetDisconnected →
        UserInfoComes (Caff.signIn username password otp) a.depth a.env i
  | .refreshAuth refreshToken =>
      refreshToken.isEmpty = false →
        UserInfoComes (Caff.refreshAuth refreshToken) a.depth a.env i
  | _ => True

/-! ## One authentication -/

section Authenticate

variable {D : Directory} {env : Environment} {owner : String} {i : Instance} {depth : ℕ}
  {authFunc : Http Instance AuthResponse}

theorem authenticate_apply_of_broadcast (hb : i.broadcast ≠ none) :
    Instance.authenticate authFunc depth env (Session.start i) =
      (.ok .alreadyBroadcasting, Session.start i) := by
  have hsome : (Session.start i).state.broadcast.isSome = true := Option.isSome_iff_ne_none.mpr hb
  rw [Instance.authenticate, get_bind_apply, if_pos hsome, pure_apply]

/-- Without a broadcast, `authenticate` makes its request first. -/
theorem authenticate_apply (hb : i.broadcast = none) :
    Instance.authenticate authFunc depth env (Session.start i) =
      (do
        let response ← authFunc
        match response.credentials with
        | none => pure response.result
        | some credentials => do
            modify (Instance.setCredentials credentials)
            let userInfo ← onSharedCredentials (getUserInfo depth)
            modify (fun i => { i with userInfo })
            if userInfo.isNone then do
              modify (fun i => { i with sharedCredentials := none, refreshToken := none })
              pure .failure
            else pure response.result : Http Instance Result) env (Session.start i) := by
  have hnone : ¬ (Session.start i).state.broadcast.isSome = true := by
    rw [Session.start, hb]
    exact Bool.false_ne_true
  rw [Instance.authenticate, get_bind_apply]
  exact congrFun (congrFun (if_neg hnone) env) (Session.start i)

section Credentials

variable {response : AuthResponse} {s : Session Instance} {c : Credentials}

theorem authenticate_apply_of_no_credentials (hb : i.broadcast = none)
    (h : authFunc env (Session.start i) = (.ok response, s)) (hc : response.credentials = none) :
    Instance.authenticate authFunc depth env (Session.start i) = (.ok response.result, s) := by
  rw [authenticate_apply hb, bind_apply_of_ok h]
  simp only [hc, pure_apply]

/-- What is left of `authenticate` once the credentials are there. -/
theorem authenticate_apply_of_credentials (hb : i.broadcast = none)
    (h : authFunc env (Session.start i) = (.ok response, s)) (hc : response.credentials = some c) :
    Instance.authenticate authFunc depth env (Session.start i) =
      (do
        let userInfo ← onSharedCredentials (getUserInfo depth)
        modify (fun i => { i with userInfo })
        if userInfo.isNone then do
          modify (fun i => { i with sharedCredentials := none, refreshToken := none })
          pure .failure
        else pure response.result : Http Instance Result) env
        { s with state := s.state.setCredentials c } := by
  rw [authenticate_apply hb, bind_apply_of_ok h]
  simp only [hc, modify_bind_apply]

/-- The three ways on from there: `getUserInfo` throws, brings no user, or brings one. -/
theorem authenticate_apply_of_user_error (hb : i.broadcast = none)
    (h : authFunc env (Session.start i) = (.ok response, s)) (hc : response.credentials = some c)
    {e : Stop} {t : Session Credentials}
    (hg : getUserInfo depth env ⟨s.asked, c⟩ = (.error e, t)) :
    Instance.authenticate authFunc depth env (Session.start i) =
      (.error e, ⟨t.asked, { s.state with
        sharedCredentials := some t.state
        refreshToken := some c.refreshToken }⟩) := by
  have hon := onSharedCredentials_apply (s := { s with state := s.state.setCredentials c }) rfl hg
  rw [authenticate_apply_of_credentials hb h hc, bind_apply_of_error hon]
  rfl

theorem authenticate_apply_of_no_user (hb : i.broadcast = none)
    (h : authFunc env (Session.start i) = (.ok response, s)) (hc : response.credentials = some c)
    {t : Session Credentials} (hg : getUserInfo depth env ⟨s.asked, c⟩ = (.ok none, t)) :
    Instance.authenticate authFunc depth env (Session.start i) =
      (.ok .failure, ⟨t.asked, { s.state with
        sharedCredentials := none
        refreshToken := none
        userInfo := none }⟩) := by
  have hon := onSharedCredentials_apply (s := { s with state := s.state.setCredentials c }) rfl hg
  rw [authenticate_apply_of_credentials hb h hc, bind_apply_of_ok hon]
  rfl

theorem authenticate_apply_of_user (hb : i.broadcast = none)
    (h : authFunc env (Session.start i) = (.ok response, s)) (hc : response.credentials = some c)
    {u : UserInfo} {t : Session Credentials}
    (hg : getUserInfo depth env ⟨s.asked, c⟩ = (.ok (some u), t)) :
    Instance.authenticate authFunc depth env (Session.start i) =
      (.ok response.result, ⟨t.asked, { s.state with
        sharedCredentials := some t.state
        refreshToken := some c.refreshToken
        userInfo := some u }⟩) := by
  have hon := onSharedCredentials_apply (s := { s with state := s.state.setCredentials c }) rfl hg
  rw [authenticate_apply_of_credentials hb h hc, bind_apply_of_ok hon]
  rfl

end Credentials

/-- **The ways an authentication can come back.**  Either it leaves the instance
alone, having got no credentials, or it got some, and what `getUserInfo` then did
decides. -/
theorem authenticate_cases {Q : AuthResponse → Prop}
    (hauth : Triple env (fun s => s.state = i) authFunc
      (fun r s => Q r ∧ s.state = i) (fun s => s.state = i))
    {result : Result} {i' : Instance}
    (h : catchAll .failure (Instance.authenticate authFunc depth) env i = some (result, i')) :
    (i' = i ∧ (i.broadcast = none → ∀ response s c,
        authFunc env (Session.start i) = (.ok response, s) → response.credentials ≠ some c)) ∨
    (i.broadcast = none ∧ ∃ response s c, authFunc env (Session.start i) = (.ok response, s) ∧
      response.credentials = some c ∧ Q response ∧
      ((∃ t, getUserInfo depth env ⟨s.asked, c⟩ = (.ok none, t) ∧
          i' = { i with
            sharedCredentials := none
            refreshToken := none
            userInfo := none }) ∨
        (∃ u t, getUserInfo depth env ⟨s.asked, c⟩ = (.ok (some u), t) ∧
          result = response.result ∧
          i' = { i with
            sharedCredentials := some t.state
            refreshToken := some c.refreshToken
            userInfo := some u }) ∨
        (∃ f t, getUserInfo depth env ⟨s.asked, c⟩ = (.error (.fault f), t) ∧ result = .failure ∧
          i' = { i with
            sharedCredentials := some t.state
            refreshToken := some c.refreshToken }))) := by
  by_cases hb : i.broadcast = none
  swap
  · have hi' := (catchAll_of_ok (authenticate_apply_of_broadcast hb) h).2
    exact .inl ⟨hi', fun hb' => absurd hb' hb⟩
  rcases hf : authFunc env (Session.start i) with ⟨e | response, s⟩
  · -- the request throws
    have hs : s.state = i := (hauth _ rfl).2 e s hf
    have hbody : Instance.authenticate authFunc depth env (Session.start i) = (.error e, s) := by
      rw [authenticate_apply hb, bind_apply_of_error hf]
    refine .inl ⟨(catchAll_of_error hbody h).2.trans hs, fun _ r s' c hr => ?_⟩
    cases hr
  obtain ⟨hQ, hs⟩ := (hauth _ rfl).1 response s hf
  rcases hc : response.credentials with _ | c
  · -- it is refused, or wants more of the user
    have hi' := (catchAll_of_ok (authenticate_apply_of_no_credentials hb hf hc) h).2
    refine .inl ⟨hi'.trans hs, fun _ r s' c hr => ?_⟩
    rw [Prod.mk.injEq, Except.ok.injEq] at hr
    rw [← hr.1, hc]
    simp
  refine .inr ⟨hb, response, s, c, rfl, hc, hQ, ?_⟩
  rcases hg : getUserInfo depth env ⟨s.asked, c⟩ with ⟨(f | _) | (_ | u), t⟩
  · obtain ⟨hr, hi'⟩ := catchAll_of_error (authenticate_apply_of_user_error hb hf hc hg) h
    refine .inr (.inr ⟨f, t, rfl, hr, ?_⟩)
    rw [hi', hs]
  · rw [catchAll, authenticate_apply_of_user_error hb hf hc hg] at h
    cases h
  · obtain ⟨-, hi'⟩ := catchAll_of_ok (authenticate_apply_of_no_user hb hf hc hg) h
    refine .inl ⟨t, rfl, ?_⟩
    rw [hi', hs]
  · obtain ⟨hr, hi'⟩ := catchAll_of_ok (authenticate_apply_of_user hb hf hc hg) h
    refine .inr (.inl ⟨u, t, rfl, hr, ?_⟩)
    rw [hi', hs]

/-- **One authentication.**  From a coherent instance the outcome of the call is safe
exactly if `getUserInfo` does not throw after new credentials were granted. -/
theorem safeOutcome_authenticate_iff (hserves : Serves D env owner)
    (hauth : Triple env (fun s => s.state = i) authFunc
      (fun r s => Issued D owner r ∧ s.state = i) (fun s => s.state = i))
    (hi : Coherent D i) {result : Result} {i' : Instance}
    (h : catchAll .failure (Instance.authenticate authFunc depth) env i = some (result, i')) :
    SafeOutcome D i result i' ↔ UserInfoComes authFunc depth env i := by
  rcases authenticate_cases hauth h with ⟨rfl, hno⟩ |
    ⟨hb, response, s, c, hf, hc, hissued, hcase⟩
  · -- no credentials were granted, and nothing has changed
    apply iff_of_true ⟨hi, fun _ => .inl ⟨rfl, rfl, rfl⟩⟩
    intro hb response s c hf hc
    exact absurd hc (hno hb response s c hf)
  obtain ⟨hsuccess, howns⟩ := hissued c hc
  have hcomes : UserInfoComes authFunc depth env i ↔
      ∀ f t, getUserInfo depth env ⟨s.asked, c⟩ = (.error (.fault f), t) →
        i.sharedCredentials = some t.state ∧ i.refreshToken = some c.refreshToken := by
    constructor
    · exact fun hu => hu hb response s c hf hc
    · intro hu _ response' s' c' hf' hc'
      rw [hf, Prod.mk.injEq, Except.ok.injEq] at hf'
      obtain ⟨rfl, rfl⟩ := hf'
      rw [hc, Option.some.injEq] at hc'
      subst hc'
      exact hu
  have hpost := triple_getUserInfo hserves depth ⟨s.asked, c⟩ howns
  rw [hcomes]
  rcases hcase with ⟨t, hg, rfl⟩ | ⟨u, t, hg, hresult, rfl⟩ | ⟨f, t, hg, hresult, rfl⟩
  · -- no user: the members are reset
    refine iff_of_true ⟨.inr ⟨rfl, rfl, rfl⟩, fun _ => .inr ⟨rfl, rfl, rfl⟩⟩ fun f t' hg' => ?_
    rw [hg] at hg'
    cases hg'
  · -- a user, who is `owner` as the credentials are
    obtain ⟨hu, ht⟩ := hpost.1 _ _ hg
    refine iff_of_true ⟨.inl ?_, fun hne => absurd (hresult.trans hsuccess) hne⟩
      fun f t' hg' => ?_
    · refine ⟨t.state, c.refreshToken, u, rfl, rfl, rfl, ?_, ?_, ?_⟩
      · rw [ht.1]
        exact ht
      · rw [ht.1]
        exact howns.2
      · rw [ht.1]
        exact hu u rfl
    · rw [hg] at hg'
      cases hg'
  · -- an exception: the credentials stay, with the user of before
    constructor
    · rintro ⟨-, hsafe⟩ f' t' hg'
      rw [hg, Prod.mk.injEq] at hg'
      rcases hsafe (by rw [hresult]; decide) with ⟨hcreds, htoken, -⟩ | ⟨hcreds, -, -⟩
      · rw [← hg'.2]
        exact ⟨hcreds.symm, htoken.symm⟩
      · cases hcreds
    · intro hkept
      obtain ⟨hcreds, htoken⟩ := hkept f t hg
      have hsame : ({ i with
          sharedCredentials := some t.state
          refreshToken := some c.refreshToken } : Instance) = i := by
        rw [← hcreds, ← htoken]
      rw [hsame]
      exact ⟨hi, fun _ => .inl ⟨rfl, rfl, rfl⟩⟩

end Authenticate

/-! ## Starting a broadcast keeps the members together -/

section StartBroadcast

variable {D : Directory} {env : Environment} {owner : String}

/-- `SameUser` with the user named. -/
def SignedInAs (D : Directory) (owner : String) (i : Instance) : Prop :=
  ∃ c token userInfo, i.sharedCredentials = some c ∧ i.refreshToken = some token ∧
    i.userInfo = some userInfo ∧ D.Owns owner c ∧ D.holder token = owner ∧
    D.account userInfo.username = owner

theorem SignedInAs.sameUser {i : Instance} (h : SignedInAs D owner i) : SameUser D i := by
  obtain ⟨c, token, userInfo, hc, ht, hu, howns, hholder, haccount⟩ := h
  have howner : owner = c.caid := howns.1.symm
  subst howner
  exact ⟨c, token, userInfo, hc, ht, hu, howns, hholder, haccount⟩

theorem triple_onSharedCredentials_getUserInfo (hserves : Serves D env owner) (depth : ℕ) :
    Triple env (fun s => SignedInAs D owner s.state) (onSharedCredentials (getUserInfo depth))
      (fun userInfo s => (∀ u, userInfo = some u → D.account u.username = owner) ∧
        SignedInAs D owner s.state)
      (fun s => SignedInAs D owner s.state) := by
  rintro s ⟨c, token, u, hc, ht, hu, howns, hholder, haccount⟩
  have hpost := triple_getUserInfo hserves depth ⟨s.asked, c⟩ howns
  have hkeep : ∀ t : Session Credentials, D.Owns owner t.state →
      SignedInAs D owner { s.state with sharedCredentials := some t.state } := by
    intro t howns'
    exact ⟨t.state, token, u, rfl, ht, hu, howns', hholder, haccount⟩
  rcases hg : getUserInfo depth env ⟨s.asked, c⟩ with ⟨x, t⟩
  have hon := onSharedCredentials_apply hc hg
  rw [hon]
  constructor
  · intro v s' h
    obtain ⟨rfl, rfl⟩ := Prod.mk.inj h
    obtain ⟨hv, howns'⟩ := hpost.1 v t hg
    exact ⟨hv, hkeep t howns'⟩
  · intro e s' h
    obtain ⟨rfl, rfl⟩ := Prod.mk.inj h
    exact hkeep t (hpost.2 e t hg)

theorem triple_checkVersion {σ : Type} {I : σ → Prop} :
    Triple env (fun s => I s.state) checkVersion (fun _ s => I s.state) (fun s => I s.state) := by
  have hrequest : Triple env (fun s => I s.state) (retryRequest .success doCheckVersion)
      (fun _ s => I s.state) (fun s => I s.state) := by
    refine Triple.retryRequest (fun _ _ h => h) (Triple.exchange.bind fun o => ?_)
    refine Triple.ite (fun _ => Triple.pure fun _ h => h.2) fun _ => ?_
    exact triple_readBody.weaken (fun _ h => h.2) fun _ _ h => h.2
  intro s hs
  rw [checkVersion]
  by_cases hinfo : env.clientType.isEmpty ∨ env.clientVersion.isEmpty
  · have hfailure : Triple env (fun s => I s.state) (pure Result.failure)
        (fun _ s => I s.state) (fun s => I s.state) := Triple.pure fun _ h => h
    rw [if_pos hinfo]
    exact hfailure s hs
  · rw [if_neg hinfo]
    exact hrequest s hs

theorem triple_getEncoderInfo {σ : Type} {I : σ → Prop} :
    Triple env (fun s => I s.state) getEncoderInfo (fun _ s => I s.state) (fun s => I s.state) := by
  refine Triple.retryRequest (fun _ _ h => h) (Triple.exchange.bind fun o => ?_)
  refine Triple.ite (fun _ => Triple.pure fun _ h => h.2) fun _ => ?_
  exact triple_readBody.weaken (fun _ h => h.2) fun _ _ h => h.2

/-- Whatever becomes of the attempt, the instance stays signed in as it was. -/
theorem triple_startBroadcast (hserves : Serves D env owner) (title : Bytes) (rating : Rating)
    (gameId : Bytes) (depth : ℕ) :
    Triple env (fun s => SignedInAs D owner s.state)
      (Instance.startBroadcast title rating gameId depth)
      (fun _ s => SignedInAs D owner s.state) (fun s => SignedInAs D owner s.state) := by
  refine Triple.get.bind fun i => Triple.ite (fun _ => Triple.pure fun _ h => h.2) fun _ => ?_
  refine (triple_checkVersion.weaken (fun _ h => h.2) fun _ _ h => h).bind fun version => ?_
  refine Triple.ite (fun _ => Triple.pure fun _ h => h) fun _ => ?_
  have hcan : Triple env (fun s => SignedInAs D owner s.state)
      (Instance.refreshCanBroadcast depth) (fun _ s => SignedInAs D owner s.state)
      (fun s => SignedInAs D owner s.state) := by
    refine Triple.get.bind fun i => Triple.ite (fun _ => Triple.pure fun _ h => h.2) fun _ => ?_
    refine ((triple_onSharedCredentials_getUserInfo hserves depth).weaken (fun _ h => h.2)
      fun _ _ h => h).bind fun newUserInfo => ?_
    rcases newUserInfo with _ | u
    · exact Triple.pure fun _ h => h.2
    · refine Triple.ite (fun _ => ?_) fun _ => Triple.pure fun _ h => h.2
      refine Triple.bind (Q := fun _ s => SignedInAs D owner s.state) ?_ fun _ =>
        Triple.pure fun _ h => h
      apply Triple.modify
      rintro s ⟨hu, c, token, u', hc, ht, -, howns, hholder, -⟩
      exact ⟨c, token, u, hc, ht, rfl, howns, hholder, hu u rfl⟩
  refine hcan.bind fun allowed => Triple.ite (fun _ => ?_) fun _ => Triple.pure fun _ h => h
  refine Triple.get.bind fun i => Triple.ite (fun _ => Triple.pure fun _ h => h.2) fun _ => ?_
  rcases i.userInfo with _ | userInfo
  · exact Triple.lift.weaken (fun _ h => h.2) fun _ _ h => h.2
  · refine Triple.bind (Q := fun _ s => SignedInAs D owner s.state)
      (Triple.modify fun _ h => h.2) fun _ => ?_
    refine Triple.bind (Q := fun _ s => SignedInAs D owner s.state) ?_ fun _ =>
      Triple.pure fun _ h => h
    exact triple_getEncoderInfo.bind fun info => Triple.modify fun _ h => h

end StartBroadcast

/-! ## Every sequence of calls -/

/-- A call of `caff_startBroadcast` keeps a coherent instance coherent. -/
theorem coherent_caffStartBroadcast {D : Directory} {i i' : Instance} {title gameId : Bytes}
    {rating : Rating} {depth : ℕ} {env : Environment} {result : Result}
    (hhonest : ∀ c, i.sharedCredentials = some c → Serves D env c.caid) (hi : Coherent D i)
    (h : caffStartBroadcast title rating gameId depth env i = some (result, i')) :
    Coherent D i' := by
  rcases hi with ⟨c, token, u, hc, ht, hu, howns, hholder, haccount⟩ | hout
  · have hsigned : SignedInAs D c.caid i' := catchAll_of_triple (I := SignedInAs D c.caid)
      (triple_startBroadcast (hhonest c hc) title rating gameId depth)
      ⟨c, token, u, hc, ht, hu, howns, hholder, haccount⟩ h
    exact .inl hsigned.sameUser
  · have hnot : i.isSignedIn = false := by rw [Instance.isSignedIn, hout.1]; rfl
    rw [caffStartBroadcast, catchAll, Instance.startBroadcast, get_bind_apply, Session.start,
      hnot] at h
    simp only [Bool.not_false, if_true, pure_apply, Option.some.injEq, Prod.mk.injEq] at h
    rw [← h.2]
    exact .inr hout

/-- An authenticating call that comes back from a coherent instance is safe exactly
if it is undisturbed. -/
theorem safeOutcome_step_iff {D : Directory} {i i' : Instance} {a : ApiStep} {result : Result}
    (ha : Authenticates a) (hhonest : Honest D i a) (hi : Coherent D i)
    (h : apiMachine.step i a = some (i', [result])) :
    SafeOutcome D i result i' ↔ Undisturbed i a := by
  have hstay : ∀ r, SafeOutcome D i r i := fun r => ⟨hi, fun _ => .inl ⟨rfl, rfl, rfl⟩⟩
  cases apiMoves_of_step h with
  | signIn pings username password otp env depth _ _ hcall =>
      obtain ⟨owner, hserves⟩ := hhonest
      rcases caffSignIn_cases hcall with ⟨rfl, hrefused⟩ | ⟨⟨hu, hp, hnet⟩, hbody⟩
      · exact iff_of_true (hstay _) fun hu hp hnet => absurd ⟨hu, hp, hnet⟩ hrefused
      · have hiff := safeOutcome_authenticate_iff hserves
          (triple_signIn_issued (I := fun j => j = i) hserves) hi hbody
        exact hiff.trans ⟨fun h _ _ _ => h, fun h => h hu hp hnet⟩
  | refreshAuth refreshToken env depth _ _ hcall =>
      obtain ⟨owner, hserves⟩ := hhonest
      rcases caffRefreshAuth_cases hcall with ⟨rfl, hrefused⟩ | ⟨ht, hbody⟩
      · exact iff_of_true (hstay _) fun ht => absurd ht hrefused
      · have hiff := safeOutcome_authenticate_iff hserves
          (triple_refreshAuth_issued (I := fun j => j = i) hserves) hi hbody
        exact hiff.trans ⟨fun h _ => h, fun h => h ht⟩
  | startBroadcast => exact ha.elim

/-- **Step lemma.**  Undisturbed steps keep a coherent instance coherent. -/
theorem coherent_step {D : Directory} {i i' : Instance} {a : ApiStep} {out : List Result}
    (hhonest : Honest D i a) (hundisturbed : Undisturbed i a) (hi : Coherent D i)
    (h : apiMachine.step i a = some (i', out)) : Coherent D i' := by
  cases apiMoves_of_step h with
  | signIn pings username password otp env depth =>
      have ha : Authenticates ⟨.signIn pings username password otp, env, depth⟩ := trivial
      exact ((safeOutcome_step_iff ha hhonest hi h).mpr hundisturbed).1
  | refreshAuth refreshToken env depth =>
      have ha : Authenticates ⟨.refreshAuth refreshToken, env, depth⟩ := trivial
      exact ((safeOutcome_step_iff ha hhonest hi h).mpr hundisturbed).1
  | signOut => exact .inr ⟨rfl, rfl, rfl⟩
  | startBroadcast title rating gameId env depth result _ hcall =>
      exact coherent_caffStartBroadcast hhonest hi hcall
  | endBroadcast => exact hi
  | refreshInBackground credentials env depth hsome =>
      rcases hi with ⟨c, token, u, hc, ht, hu, howns, hholder, haccount⟩ | hout
      · have hnew : D.Owns c.caid credentials := hhonest c hc
        have hsigned : SignedInAs D c.caid { i with sharedCredentials := some credentials } :=
          ⟨credentials, token, u, rfl, ht, hu, hnew, hholder, haccount⟩
        exact .inl hsigned.sameUser
      · rw [hout.1] at hsome
        cases hsome

/-- **Run lemma, and the next call.**  However often the application signs in,
signs out, and starts and ends broadcasts, if the server is consistent and every
authentication so far was undisturbed, the three members are together, and the
next authentication that comes back is safe exactly if it is undisturbed too. -/
theorem coherent_and_safeOutcome_iff {D : Directory} {tr : List (Instance × ApiStep)}
    {es : List Result} {i : Instance} (hrun : apiMachine.Run {} tr es i)
    (hhonest : Machine.Meets (Honest D) tr) (hundisturbed : Machine.Meets Undisturbed tr) :
    Coherent D i ∧ ∀ a result i', Authenticates a → Honest D i a →
      apiMachine.step i a = some (i', [result]) →
      (SafeOutcome D i result i' ↔ Undisturbed i a) := by
  have hi : Coherent D i := by
    have hboth : Machine.Meets (fun i a => Honest D i a ∧ Undisturbed i a) tr :=
      fun p hp => ⟨hhonest p hp, hundisturbed p hp⟩
    refine hrun.induction_on_steps (I := fun _ i => Coherent D i) (.inr ⟨rfl, rfl, rfl⟩) ?_ hboth
    intro _ i a i' out hi hC h
    exact coherent_step hC.1 hC.2 hi h
  exact ⟨hi, fun a result i' ha hh h => safeOutcome_step_iff ha hh hi h⟩

/-! ## A refused user document -/

/-- The credentials of one user. -/
def credentialsOfMaya : Credentials := ⟨"access", "refresh", "CAID1", "credential"⟩

/-- The server that knows one user. -/
def directoryOfMaya : Directory where
  holder token := if token = "refresh" then "CAID1" else ""
  account username := if username = "maya" then "CAID1" else ""

/-- The body of a granted refresh, and its document. -/
def grantBody : Bytes :=
  toBytes ("\x7b\"credentials\":\x7b\"access_token\":\"access\"," ++
    "\"refresh_token\":\"refresh\",\"caid\":\"CAID1\",\"credential\":\"credential\"\x7d\x7d")

def grant : Json :=
  .object [("credentials", .object [("access_token", .string "access"),
    ("refresh_token", .string "refresh"), ("caid", .string "CAID1"),
    ("credential", .string "credential")])]

/-- A server that grants `credentialsOfMaya`, and answers with the document `user`
where it is asked for the user. -/
def serverOfMaya (userBody : Bytes) (user : Json) : Environment where
  clientType := toBytes "OBS"
  clientVersion := toBytes "24.0"
  outcomes e _ := ⟨.ok, 200, if e = .user then userBody else grantBody⟩
  parse body :=
    if body = userBody then some (.object [("user", user)])
    else if body = grantBody then some grant
    else none

/-- The user document with the member `can_broadcast`. -/
def fullUser : Environment :=
  serverOfMaya (toBytes "\x7b\"user\":\x7b\"username\":\"maya\",\"can_broadcast\":true\x7d\x7d")
    (.object [("username", .string "maya"), ("can_broadcast", .boolean true)])

/-- The user document without it. -/
def userWithoutCanBroadcast : Environment :=
  serverOfMaya (toBytes "\x7b\"user\":\x7b\"username\":\"maya\"\x7d\x7d")
    (.object [("username", .string "maya")])

theorem serves_serverOfMaya {userBody : Bytes} {user : Json} (hbody : grantBody ≠ userBody)
    (huser : ∀ u, UserInfo.fromJson user = .ok u → u.username = "maya") :
    Serves directoryOfMaya (serverOfMaya userBody user) "CAID1" := by
  have hgrant : ∀ e ∈ [Endpoint.signIn, Endpoint.refreshToken], ∀ n,
      (serverOfMaya userBody user).document ((serverOfMaya userBody user).outcomes e n) =
        some grant := by
    intro e he n
    have hne : e ≠ .user := by
      rintro rfl
      exact absurd he (by decide)
    simp only [serverOfMaya, Environment.document, if_neg hne, if_neg hbody, if_true]
  constructor
  · intro e he n j creds c hj hcreds hc
    rw [hgrant e he n, Option.some.injEq] at hj
    rw [← hj] at hcreds
    have hread : Credentials.fromJson creds = .ok credentialsOfMaya := by
      rw [← Option.some.inj hcreds]
      rfl
    rw [hread, Except.ok.injEq] at hc
    rw [← hc]
    exact ⟨rfl, rfl⟩
  · intro n j u userInfo hj hu hread
    have hdoc : (serverOfMaya userBody user).document
        ((serverOfMaya userBody user).outcomes .user n) = some (.object [("user", user)]) := by
      simp only [serverOfMaya, Environment.document, if_true]
    rw [hdoc, Option.some.injEq] at hj
    rw [← hj] at hu
    have huu : u = user := (Option.some.inj hu).symm
    rw [huu] at hread
    rw [huser userInfo hread]
    rfl

theorem serves_fullUser : Serves directoryOfMaya fullUser "CAID1" := by
  apply serves_serverOfMaya (by decide +kernel)
  intro u hu
  rw [← Except.ok.inj hu]

theorem serves_userWithoutCanBroadcast :
    Serves directoryOfMaya userWithoutCanBroadcast "CAID1" :=
  serves_serverOfMaya (by decide +kernel) fun u hu => by cases hu

/-- One undisturbed authentication is a run the run lemma applies to. -/
theorem coherent_and_safeOutcome_iff_fullUser :
    ∃ i, i.userInfo = some ⟨"maya", true⟩ ∧ Coherent directoryOfMaya i ∧
      ∀ a result i', Authenticates a → Honest directoryOfMaya i a →
        apiMachine.step i a = some (i', [result]) →
        (SafeOutcome directoryOfMaya i result i' ↔ Undisturbed i a) := by
  have hstep : apiMachine.step {} ⟨.refreshAuth (toBytes "saved"), fullUser, 1⟩ =
      some ({ sharedCredentials := some credentialsOfMaya, refreshToken := some "refresh",
              userInfo := some ⟨"maya", true⟩ }, [.success]) := by
    decide +kernel
  refine ⟨_, rfl, coherent_and_safeOutcome_iff (Machine.Run.single hstep) ?_ ?_⟩
  · rintro p hp
    rw [List.mem_singleton.mp hp]
    exact ⟨"CAID1", serves_fullUser⟩
  · rintro p hp
    rw [List.mem_singleton.mp hp]
    rintro - - response s c hf hc f t hg
    have hreturns : (getUserInfo 1 fullUser ⟨s.asked, c⟩).1 = .ok (some ⟨"maya", true⟩) := rfl
    rw [hg] at hreturns
    cases hreturns

/-- The server grants a refresh, and then answers with a user document that lacks a
member: the call fails, and leaves the credentials without a user. -/
theorem not_safeOutcome_userWithoutCanBroadcast :
    apiMachine.step {} ⟨.refreshAuth (toBytes "saved"), userWithoutCanBroadcast, 1⟩ =
      some ({ sharedCredentials := some credentialsOfMaya, refreshToken := some "refresh" },
        [.failure]) ∧
    Honest directoryOfMaya {} ⟨.refreshAuth (toBytes "saved"), userWithoutCanBroadcast, 1⟩ ∧
    ¬ SafeOutcome directoryOfMaya {} .failure
      { sharedCredentials := some credentialsOfMaya, refreshToken := some "refresh" } := by
  refine ⟨by decide +kernel, ⟨"CAID1", serves_userWithoutCanBroadcast⟩, ?_⟩
  rintro ⟨⟨c, token, u, -, -, hu, -⟩ | ⟨hc, -, -⟩, -⟩
  · cases hu
  · cases hc

end Caff
