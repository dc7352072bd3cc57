/-
# When the REST wrappers return normally

Each wrapper of `src/RestApi.cpp` catches what `Json::parse` throws, and then
walks the document outside of the `try`.  So a wrapper returns normally exactly
if every document it gets to walk has the shape the walk takes for granted.
This file states that shape for each wrapper, as a condition on the HTTP
outcomes, and proves the equivalence.

The wrappers that refresh their credentials on a status 401 may make any number
of exchanges; they return if in addition this chain of refreshes ends.
-/
import Caffeine.RestApi

namespace Caff

open Http Json

variable {σ T : Type}

/-! ## Requests that never ask for a retry -/

/-- Whatever the request returns is final. -/
def Completes (request : Http σ (Retryable T)) : Prop :=
  ∀ env s r s', request env s = (.ok r, s') → isComplete r = true

theorem completes_pure (v : T) : Completes (pure (complete v) : Http σ (Retryable T)) := by
  intro env s r s' h
  rw [pure_apply, Prod.mk.injEq, Except.ok.injEq] at h
  rw [← h.1]
  rfl

/-- A request completes if it does after its first part. -/
theorem completes_bind {α : Type} {x : Http σ α} {f : α → Http σ (Retryable T)}
    (hf : ∀ v, Completes (f v)) : Completes (x >>= f) := by
  intro env s r s' h
  rcases hx : x env s with ⟨e | v, t⟩
  · rw [bind_apply_of_error hx] at h
    simp at h
  · rw [bind_apply_of_ok hx] at h
    exact hf v env t r s' h

/-- Both branches have to complete, -/
theorem completes_ite {c : Prop} [Decidable c] {x y : Http σ (Retryable T)}
    (hx : Completes x) (hy : Completes y) : Completes (if c then x else y) := by
  by_cases hc : c
  · rwa [if_pos hc]
  · rwa [if_neg hc]

/-- A walk all of whose values are final. -/
def WalkCompletes (walk : Json → Json.Access (Retryable T)) : Prop :=
  ∀ j r, walk j = .ok r → isComplete r = true

/-- and the walk through the body has to. -/
theorem completes_readBody {o : HttpOutcome} {v : T} {walk : Json → Json.Access (Retryable T)}
    (hwalk : WalkCompletes walk) :
    Completes (readBody o (complete v) walk : Http σ (Retryable T)) := by
  intro env s r s' h
  rw [readBody, parseBody_bind_apply] at h
  rcases hj : env.document o with _ | j
  · rw [hj] at h
    exact completes_pure v env s r s' h
  · rw [hj] at h
    rcases hw : walk j with f | r'
    · simp only [hw, lift_error, Prod.mk.injEq, reduceCtorEq, false_and] at h
    · simp only [hw, lift_ok, Prod.mk.injEq, Except.ok.injEq] at h
      rw [← h.1]
      exact hwalk j r' hw

/-- **A request that never asks for a retry returns exactly if its one try does.** -/
theorem returns_retryRequest_iff {empty : T} {request : Http σ (Retryable T)}
    (hrequest : Completes request) {env : Environment} {s : Session σ} :
    (retryRequest empty request).Returns env s ↔ request.Returns env s := by
  rcases h : request env s with ⟨e | r, s'⟩
  · simp [Returns, retryRequest_apply_of_error h, h]
  · have hr : r = complete r.result := by
      have := hrequest env s r s' h
      rw [isComplete, decide_eq_true_eq] at this
      rw [complete, ← this]
    rw [hr] at h
    simp [Returns, retryRequest_apply_of_complete h, h]

/-- Reading a body returns exactly if the walk through its document, if it has
one, goes through. -/
theorem returns_readBody_iff {o : HttpOutcome} {unparsable : Retryable T}
    {walk : Json → Json.Access (Retryable T)} {env : Environment} {s : Session σ} :
    (readBody o unparsable walk).Returns env s ↔
      ∀ j, env.document o = some j → (walk j).Succeeds := by
  rw [readBody, Returns, parseBody_bind_apply]
  rcases env.document o with _ | j
  · simp
  · simp only [Option.some.injEq, forall_eq']
    exact returns_lift_iff

/-! ## The shapes the walks take for granted -/

/-- For `doCheckVersion`. -/
def VersionShape (j : Json) : Prop :=
  ∀ errors, j.find "errors" = some errors → errors.Has "_expired" StartsWithString

/-- For `doSignIn`. -/
def SignInShape (j : Json) : Prop :=
  match j.find "errors", j.find "credentials", j.find "next" with
  | some errors, _, _ =>
      match errors.find "otp" with
      | some otpError => otpError.StartsWithString
      | none => errors.Has "_error" StartsWithString
  | none, some creds, _ => CredentialsShape creds
  | none, none, some next => next.IsString
  | none, none, none => True

/-- For `doRefreshAuth`. -/
def RefreshShape (j : Json) : Prop :=
  match j.find "errors", j.find "credentials" with
  | some errors, _ => errors.Has "_error" StartsWithString
  | none, some creds => CredentialsShape creds
  | none, none => True

/-- For `doGetUserInfo`. -/
def UserShape (j : Json) : Prop :=
  match j.find "errors", j.find "user" with
  | some errors, _ => errors.Has "_error" StartsWithString
  | none, some user => UserInfoShape user
  | none, none => True

/-- For `doGetSupportedGames`. -/
def GamesShape (j : Json) : Prop := ∀ games, j = array games → ∀ game ∈ games, GameInfoShape game

/-- The walk of the version check takes its shape for granted, and no more. -/
theorem succeeds_readVersion_iff {j : Json} : (readVersion j).Succeeds ↔ VersionShape j := by
  rw [readVersion, VersionShape]
  rcases j.find "errors" with _ | errors
  · simp
  · simp only [Option.some.injEq, forall_eq']
    rw [Except.succeeds_bind_of_forall (fun _ => Except.succeeds_pure _ |> iff_true_intro),
      succeeds_errorText_iff, and_true]

/-- So does that of a sign-in, -/
theorem succeeds_readSignIn_iff {otp : Option Bytes} {j : Json} :
    (readSignIn otp j).Succeeds ↔ SignInShape j := by
  rw [readSignIn, SignInShape]
  rcases j.find "errors" with _ | errors
  · rcases j.find "credentials" with _ | creds
    · rcases j.find "next" with _ | next
      · simp
      · simp only
        rw [Except.succeeds_bind_of_forall (fun _ => iff_true_intro (Except.succeeds_pure _)),
          succeeds_getStringRef_iff, and_true]
    · simp only
      rw [Except.succeeds_bind_of_forall (fun _ => iff_true_intro (Except.succeeds_pure _)),
        succeeds_credentials_iff, and_true]
  · simp only
    rcases errors.find "otp" with _ | otpError
    · simp only
      rw [Except.succeeds_bind_of_forall (fun _ => iff_true_intro (Except.succeeds_pure _)),
        succeeds_errorText_iff, and_true]
    · simp only
      rw [← succeeds_atIndex_zero_iff]
      simp

/-- of a refresh, -/
theorem succeeds_readRefreshAuth_iff {j : Json} :
    (readRefreshAuth j).Succeeds ↔ RefreshShape j := by
  rw [readRefreshAuth, RefreshShape]
  rcases j.find "errors" with _ | errors
  · rcases j.find "credentials" with _ | creds
    · simp
    · simp only
      rw [Except.succeeds_bind_of_forall (fun _ => iff_true_intro (Except.succeeds_pure _)),
        succeeds_credentials_iff, and_true]
  · simp only
    rw [Except.succeeds_bind_of_forall (fun _ => iff_true_intro (Except.succeeds_pure _)),
      succeeds_errorText_iff, and_true]

/-- of the user information, -/
theorem succeeds_readUserInfo_iff {j : Json} : (readUserInfo j).Succeeds ↔ UserShape j := by
  rw [readUserInfo, UserShape]
  rcases j.find "errors" with _ | errors
  · rcases j.find "user" with _ | user
    · simp
    · simp only
      rw [Except.succeeds_bind_of_forall (fun _ => iff_true_intro (Except.succeeds_pure _)),
        succeeds_userInfo_iff, and_true]
  · simp only
    rw [Except.succeeds_bind_of_forall (fun _ => iff_true_intro (Except.succeeds_pure _)),
      succeeds_errorText_iff, and_true]

/-- of a heartbeat, -/
theorem succeeds_readHeartbeat_iff {j : Json} :
    (readHeartbeat j).Succeeds ↔ HeartbeatShape j := by
  rw [readHeartbeat,
    Except.succeeds_bind_of_forall (fun _ => iff_true_intro (Except.succeeds_pure _)),
    succeeds_heartbeat_iff, and_true]

/-- of the encoder information, -/
theorem succeeds_readEncoderInfo_iff {j : Json} :
    (readEncoderInfo j).Succeeds ↔ EncoderInfoShape j := by
  rw [readEncoderInfo,
    Except.succeeds_bind_of_forall (fun _ => iff_true_intro (Except.succeeds_pure _)),
    succeeds_encoderInfo_iff, and_true]

/-- and of the list of games. -/
theorem succeeds_readGameList_iff {j : Json} : (readGameList j).Succeeds ↔ GamesShape j := by
  rw [readGameList.eq_def, GamesShape]
  cases j <;> try simp
  rw [Except.succeeds_mapM]
  simp only [succeeds_gameInfo_iff]

/-! ## The walks never ask for a retry -/

/-- Peel one access off a walk. -/
theorem isComplete_of_bind {α : Type} {x : Json.Access α} {f : α → Json.Access (Retryable T)}
    (hf : ∀ v r, f v = .ok r → isComplete r = true) (r : Retryable T)
    (h : (x >>= f) = .ok r) : isComplete r = true := by
  obtain ⟨v, -, hv⟩ := Except.exists_of_bind_eq_ok h
  exact hf v r hv

/-- The end of a walk. -/
theorem isComplete_of_pure {v : T} (r : Retryable T)
    (h : (pure (complete v) : Json.Access (Retryable T)) = .ok r) : isComplete r = true := by
  rw [← Except.ok.inj h]
  rfl

/-- Whatever branch the sign-in takes, its answer is final. -/
theorem walkCompletes_readSignIn (otp : Option Bytes) : WalkCompletes (readSignIn otp) := by
  intro j r h
  unfold readSignIn at h
  split at h
  · -- `errors`, with an entry for the one-time password or without
    split at h
    · exact isComplete_of_bind (fun _ => isComplete_of_bind (fun _ => isComplete_of_pure)) r h
    · exact isComplete_of_bind (fun _ => isComplete_of_pure) r h
  · split at h
    · exact isComplete_of_bind (fun _ => isComplete_of_pure) r h
    · split at h
      · exact isComplete_of_bind (fun _ => isComplete_of_pure) r h
      · exact isComplete_of_pure r h

/-- So is that of a refresh, -/
theorem walkCompletes_readRefreshAuth : WalkCompletes readRefreshAuth := by
  intro j r h
  unfold readRefreshAuth at h
  split at h
  · exact isComplete_of_bind (fun _ => isComplete_of_pure) r h
  · split at h
    · exact isComplete_of_bind (fun _ => isComplete_of_pure) r h
    · exact isComplete_of_pure r h

/-- that of the user information -/
theorem walkCompletes_readUserInfo : WalkCompletes readUserInfo := by
  intro j r h
  unfold readUserInfo at h
  split at h
  · exact isComplete_of_bind (fun _ => isComplete_of_pure) r h
  · split at h
    · exact isComplete_of_bind (fun _ => isComplete_of_pure) r h
    · exact isComplete_of_pure r h

theorem walkCompletes_readHeartbeat : WalkCompletes readHeartbeat := fun _ =>
  isComplete_of_bind (fun _ => isComplete_of_pure)

theorem walkCompletes_readEncoderInfo : WalkCompletes readEncoderInfo := fun _ =>
  isComplete_of_bind (fun _ => isComplete_of_pure)

/-- and that of the games. -/
theorem walkCompletes_readGameList : WalkCompletes readGameList := by
  intro j r h
  rw [readGameList.eq_def] at h
  split at h
  · exact isComplete_of_bind (fun _ => isComplete_of_pure) r h
  · exact isComplete_of_pure r h

/-- A sign-in is tried once, -/
theorem completes_doSignIn (username password : Bytes) (otp : Option Bytes) :
    Completes (doSignIn username password otp : Http σ _) := by
  refine completes_bind fun _ => completes_bind fun o => completes_ite (completes_pure _) ?_
  exact completes_ite (completes_pure _) (completes_readBody (walkCompletes_readSignIn otp))

/-- a refresh too, -/
theorem completes_doRefreshAuth (refreshToken : Bytes) :
    Completes (doRefreshAuth refreshToken : Http σ _) := by
  refine completes_bind fun _ => completes_bind fun o => completes_ite (completes_pure _) ?_
  exact completes_ite (completes_pure _) (completes_readBody walkCompletes_readRefreshAuth)

/-- and so are the encoder information -/
theorem completes_doGetEncoderInfo : Completes (doGetEncoderInfo : Http σ _) :=
  completes_bind fun _ => completes_ite (completes_pure _)
    (completes_readBody walkCompletes_readEncoderInfo)

/-- and the list of games. -/
theorem completes_doGetSupportedGames : Completes (doGetSupportedGames : Http σ _) :=
  completes_bind fun _ => completes_ite (completes_pure _)
    (completes_readBody walkCompletes_readGameList)

/-- An authorized request never asks for a retry if its answer does not. -/
theorem completes_authorizedRequest {e : Endpoint} {unreachable refused : T}
    {answer : HttpOutcome → Http Credentials (Retryable T)}
    (hanswer : ∀ o, Completes (answer o)) (depth : ℕ) :
    Completes (authorizedRequest e (complete unreachable) (complete refused) answer depth) := by
  induction depth with
  | zero =>
      intro env s r s' h
      rw [authorizedRequest] at h
      cases h
  | succ depth ih =>
      refine completes_bind fun o => completes_ite (completes_pure _) ?_
      refine completes_ite (completes_bind fun refreshed => ?_) (hanswer o)
      exact completes_ite ih (completes_pure _)

theorem completes_doGetUserInfo (depth : ℕ) : Completes (doGetUserInfo depth) :=
  completes_authorizedRequest (fun _ => completes_readBody walkCompletes_readUserInfo) depth

theorem completes_doHeartbeatStream (depth : ℕ) : Completes (doHeartbeatStream depth) :=
  completes_authorizedRequest (fun _ => completes_ite (completes_pure _)
    (completes_readBody walkCompletes_readHeartbeat)) depth

/-! ## Outcomes that are dealt with -/

/-- The transport failed, or the body does not parse, or its document has the
shape. -/
def Readable (env : Environment) (shape : Json → Prop) (o : HttpOutcome) : Prop :=
  o.curlResult = .ok → ∀ j, env.document o = some j → shape j

/-- A status 401. -/
def Unauthorized (o : HttpOutcome) : Prop := o.curlResult = .ok ∧ o.responseCode = 401

/-- A refresh that brings new credentials. -/
def Granted (env : Environment) (o : HttpOutcome) : Prop :=
  o.curlResult = .ok ∧ o.responseCode ≠ 401 ∧
    ∃ j creds, env.document o = some j ∧ j.find "errors" = none ∧
      j.find "credentials" = some creds ∧ CredentialsShape creds

/-- A transport failure or a body that does not parse: the version check is tried
again. -/
def Unread (env : Environment) (o : HttpOutcome) : Prop :=
  o.curlResult ≠ .ok ∨ env.document o = none

/-- The condition on the outcomes of up to `tries` version checks. -/
def VersionReadable (env : Environment) (first tries : ℕ) : Prop :=
  ∀ i < tries, (∀ k < i, Unread env (env.outcomes .versionCheck (first + k))) →
    Readable env VersionShape (env.outcomes .versionCheck (first + i))

/-- The chain of exchanges of an authorized request ends, and every document on
the way is one its walk goes through.  The request takes the outcomes of its own
endpoint from `m` on and those of the refreshes from `n` on. -/
inductive ChainEnds (env : Environment) (e : Endpoint) (final : HttpOutcome → Prop) : ℕ → ℕ → Prop
  | answered {m n : ℕ} (h : ¬ Unauthorized (env.outcomes e m)) (hf : final (env.outcomes e m)) :
      ChainEnds env e final m n
  | refused {m n : ℕ} (h : Unauthorized (env.outcomes e m))
      (hg : ¬ Granted env (env.outcomes .refreshToken n))
      (hr : (env.outcomes .refreshToken n).responseCode ≠ 401 →
        Readable env RefreshShape (env.outcomes .refreshToken n)) :
      ChainEnds env e final m n
  | refreshed {m n : ℕ} (h : Unauthorized (env.outcomes e m))
      (hg : Granted env (env.outcomes .refreshToken n))
      (hrest : ChainEnds env e final (m + 1) (n + 1)) : ChainEnds env e final m n

/-! ## Requests without credentials -/

/-- What a request does with an outcome: nothing after a transport failure. -/
theorem returns_reply_iff {o : HttpOutcome} {unreachable unparsable : Retryable T}
    {walk : Json → Json.Access (Retryable T)} {shape : Json → Prop}
    (hwalk : ∀ j, (walk j).Succeeds ↔ shape j) {env : Environment} {s : Session σ} :
    (if o.curlResult ≠ .ok then pure unreachable
      else readBody o unparsable walk : Http σ _).Returns env s ↔ Readable env shape o := by
  by_cases ho : o.curlResult = .ok
  · rw [if_neg (not_not.mpr ho), returns_readBody_iff]
    simp only [Readable, ho, hwalk, true_implies]
  · rw [if_pos ho]
    simp [Readable, ho]

/-- The encoder information returns exactly if its document is read, -/
theorem returns_getEncoderInfo_iff {env : Environment} {s : Session σ} :
    getEncoderInfo.Returns env s ↔
      Readable env EncoderInfoShape (env.outcomes .encoderInfo (s.asked .encoderInfo)) := by
  rw [getEncoderInfo, returns_retryRequest_iff completes_doGetEncoderInfo, doGetEncoderInfo,
    Returns, exchange_bind_apply]
  exact returns_reply_iff (fun _ => succeeds_readEncoderInfo_iff)

/-- and so does the list of games. -/
theorem returns_getSupportedGames_iff {env : Environment} {s : Session σ} :
    getSupportedGames.Returns env s ↔
      Readable env GamesShape (env.outcomes .games (s.asked .games)) := by
  rw [getSupportedGames, returns_retryRequest_iff completes_doGetSupportedGames,
    doGetSupportedGames, Returns, exchange_bind_apply]
  exact returns_reply_iff (fun _ => succeeds_readGameList_iff)

/-! ## Authentication -/

/-- `Json::dump` throws on a text that is not UTF-8. -/
theorem returns_dump_iff {texts : List Bytes} : (dump texts).Succeeds ↔ texts.all isUtf8 := by
  rw [dump]
  by_cases h : texts.all isUtf8 = true
  · simp [h]
  · simp [h]

/-- What an authentication request does once its body is serialised. -/
theorem returns_authReply_iff {o : HttpOutcome} {v w u : Retryable T}
    {walk : Json → Json.Access (Retryable T)} {shape : Json → Prop}
    (hwalk : ∀ j, (walk j).Succeeds ↔ shape j) {env : Environment} {s : Session σ} :
    (if o.curlResult ≠ .ok then pure v
      else if o.responseCode = 401 then pure w
      else readBody o u walk : Http σ _).Returns env s ↔
      (o.responseCode ≠ 401 → Readable env shape o) := by
  by_cases h401 : o.responseCode = 401
  · by_cases ho : o.curlResult = .ok <;> simp [ho, h401]
  · simp only [ne_eq, h401, not_false_eq_true, true_implies]
    exact returns_reply_iff hwalk

/-- A sign-in returns exactly if its texts are written and its document, if there is one, is
read. -/
theorem returns_signIn_iff {username password : Bytes} {otp : Option Bytes} {env : Environment}
    {s : Session σ} :
    (signIn username password otp).Returns env s ↔
      (signInTexts username password otp).all isUtf8 ∧
        ((env.outcomes .signIn (s.asked .signIn)).responseCode ≠ 401 →
          Readable env SignInShape (env.outcomes .signIn (s.asked .signIn))) := by
  rw [signIn, returns_retryRequest_iff (completes_doSignIn username password otp), doSignIn,
    ← returns_dump_iff]
  rcases hd : dump (signInTexts username password otp) with f | u
  · rw [Returns, bind_apply_of_error (lift_error f env s)]
    simp
  · rw [Returns, bind_apply_of_ok (lift_ok u env s), exchange_bind_apply]
    simp only [Except.succeeds_ok, true_and]
    exact returns_authReply_iff (fun _ => succeeds_readSignIn_iff)

/-- The same of a refresh, which sends one text. -/
theorem returns_refreshAuth_iff {refreshToken : Bytes} {env : Environment} {s : Session σ} :
    (refreshAuth refreshToken).Returns env s ↔
      isUtf8 refreshToken ∧
        ((env.outcomes .refreshToken (s.asked .refreshToken)).responseCode ≠ 401 →
          Readable env RefreshShape (env.outcomes .refreshToken (s.asked .refreshToken))) := by
  have hall : isUtf8 refreshToken = true ↔ [refreshToken].all isUtf8 = true := by simp
  rw [refreshAuth, returns_retryRequest_iff (completes_doRefreshAuth refreshToken), doRefreshAuth,
    hall, ← returns_dump_iff]
  rcases hd : dump [refreshToken] with f | u
  · rw [Returns, bind_apply_of_error (lift_error f env s)]
    simp
  · rw [Returns, bind_apply_of_ok (lift_ok u env s), exchange_bind_apply]
    simp only [Except.succeeds_ok, true_and]
    exact returns_authReply_iff (fun _ => succeeds_readRefreshAuth_iff)

/-! ## Refreshing the credentials -/

/-- The credentials of a grant are those of its document. -/
theorem readRefreshAuth_of_credentials {j creds : Json} {c : Credentials}
    (herrors : j.find "errors" = none) (hcreds : j.find "credentials" = some creds)
    (hc : Credentials.fromJson creds = .ok c) :
    readRefreshAuth j = .ok (complete { result := .success, credentials := some c }) := by
  simp only [readRefreshAuth, herrors, hcreds, hc]
  rfl

/-- A well-shaped document that is no grant gives an answer without credentials. -/
theorem readRefreshAuth_of_refused {j : Json} (hshape : RefreshShape j)
    (hrefused : j.find "errors" ≠ none ∨ j.find "credentials" = none) :
    ∃ r, readRefreshAuth j = .ok (complete r) ∧ r.credentials = none := by
  rw [RefreshShape] at hshape
  rw [readRefreshAuth]
  rcases herrors : j.find "errors" with _ | errors
  · rcases hcreds : j.find "credentials" with _ | creds
    · exact ⟨{}, rfl, rfl⟩
    · simp [herrors, hcreds] at hrefused
  · rw [herrors] at hshape
    obtain ⟨text, htext⟩ := succeeds_errorText_iff.mpr hshape
    refine ⟨{}, ?_, rfl⟩
    simp only [htext]
    rfl

/-- An answer to a refresh request whose document is walked. -/
theorem doRefreshAuth_apply_of_document {refreshToken : Bytes} {env : Environment}
    {s : Session σ} {j : Json} (htoken : isUtf8 refreshToken = true)
    (ho : (env.outcomes .refreshToken (s.asked .refreshToken)).curlResult = .ok)
    (h401 : (env.outcomes .refreshToken (s.asked .refreshToken)).responseCode ≠ 401)
    (hj : env.document (env.outcomes .refreshToken (s.asked .refreshToken)) = some j) :
    doRefreshAuth refreshToken env s = lift (readRefreshAuth j) env (s.ask .refreshToken) := by
  have hdump : dump [refreshToken] = .ok () := by simp [dump, htoken]
  rw [doRefreshAuth, hdump, bind_apply_of_ok (lift_ok () env s), exchange_bind_apply,
    if_neg (not_not.mpr ho), if_neg h401, readBody, parseBody_bind_apply, hj]

/-- A refresh request without an answer to walk. -/
theorem doRefreshAuth_apply_of_no_document {refreshToken : Bytes} {env : Environment}
    {s : Session σ} (htoken : isUtf8 refreshToken = true)
    (h : (env.outcomes .refreshToken (s.asked .refreshToken)).curlResult = .ok →
      (env.outcomes .refreshToken (s.asked .refreshToken)).responseCode ≠ 401 →
      env.document (env.outcomes .refreshToken (s.asked .refreshToken)) = none) :
    ∃ r, doRefreshAuth refreshToken env s = (.ok (complete r), s.ask .refreshToken) ∧
      r.credentials = none := by
  have hdump : dump [refreshToken] = .ok () := by simp [dump, htoken]
  rw [doRefreshAuth, hdump, bind_apply_of_ok (lift_ok () env s), exchange_bind_apply]
  by_cases ho : (env.outcomes .refreshToken (s.asked .refreshToken)).curlResult = .ok
  · by_cases h401 : (env.outcomes .refreshToken (s.asked .refreshToken)).responseCode = 401
    · rw [if_neg (not_not.mpr ho), if_pos h401]
      exact ⟨{ result := .infoIncorrect }, rfl, rfl⟩
    · rw [if_neg (not_not.mpr ho), if_neg h401, readBody, parseBody_bind_apply, h ho h401]
      exact ⟨{}, rfl, rfl⟩
  · rw [if_pos ho]
    exact ⟨{}, rfl, rfl⟩

section RefreshCredentials

variable {env : Environment} {s : Session Credentials}

/-- A granted refresh replaces the shared credentials. -/
theorem refreshCredentials_of_granted
    (h : Granted env (env.outcomes .refreshToken (s.asked .refreshToken))) :
    ∃ c, refreshCredentials env s =
      (.ok true, { s.ask .refreshToken with state := c }) := by
  obtain ⟨ho, h401, j, creds, hj, herrors, hcreds, hshape⟩ := h
  obtain ⟨c, hc⟩ := succeeds_credentials_iff.mpr hshape
  have hdo := doRefreshAuth_apply_of_document (isUtf8_toBytes s.state.refreshToken) ho h401 hj
  rw [readRefreshAuth_of_credentials herrors hcreds hc, lift_ok] at hdo
  refine ⟨c, ?_⟩
  rw [refreshCredentials, get_bind_apply, refreshAuth,
    bind_apply_of_ok (retryRequest_apply_of_complete hdo)]
  rfl

/-- A refresh that is answered without credentials leaves the shared ones alone. -/
theorem refreshCredentials_of_refused
    (hg : ¬ Granted env (env.outcomes .refreshToken (s.asked .refreshToken)))
    (hr : (env.outcomes .refreshToken (s.asked .refreshToken)).responseCode ≠ 401 →
      Readable env RefreshShape (env.outcomes .refreshToken (s.asked .refreshToken))) :
    refreshCredentials env s = (.ok false, s.ask .refreshToken) := by
  have htoken := isUtf8_toBytes s.state.refreshToken
  have hdo : ∃ r, doRefreshAuth (toBytes s.state.refreshToken) env s =
      (.ok (complete r), s.ask .refreshToken) ∧ r.credentials = none := by
    by_cases hdoc : ∃ j, (env.outcomes .refreshToken (s.asked .refreshToken)).curlResult = .ok ∧
        (env.outcomes .refreshToken (s.asked .refreshToken)).responseCode ≠ 401 ∧
        env.document (env.outcomes .refreshToken (s.asked .refreshToken)) = some j
    · -- the document is no grant, so it brings no credentials
      obtain ⟨j, ho, h401, hj⟩ := hdoc
      have hshape : RefreshShape j := hr h401 ho j hj
      have hrefused : j.find "errors" ≠ none ∨ j.find "credentials" = none := by
        by_contra hno
        rw [not_or, not_not] at hno
        obtain ⟨creds, hcreds⟩ := Option.ne_none_iff_exists'.mp hno.2
        rw [RefreshShape, hno.1, hcreds] at hshape
        exact hg ⟨ho, h401, j, creds, hj, hno.1, hcreds, hshape⟩
      obtain ⟨r, hwalk, hnone⟩ := readRefreshAuth_of_refused hshape hrefused
      refine ⟨r, ?_, hnone⟩
      rw [doRefreshAuth_apply_of_document htoken ho h401 hj, hwalk, lift_ok]
    · apply doRefreshAuth_apply_of_no_document htoken
      intro ho h401
      by_contra hsome
      obtain ⟨j, hj⟩ := Option.ne_none_iff_exists'.mp hsome
      exact hdoc ⟨j, ho, h401, hj⟩
  obtain ⟨r, hdo, hnone⟩ := hdo
  rw [refreshCredentials, get_bind_apply, refreshAuth,
    bind_apply_of_ok (retryRequest_apply_of_complete hdo), hnone]
  rfl

/-- A refresh answered with a document of another shape stops. -/
theorem refreshCredentials_of_unreadable
    (hr : ¬ ((env.outcomes .refreshToken (s.asked .refreshToken)).responseCode ≠ 401 →
      Readable env RefreshShape (env.outcomes .refreshToken (s.asked .refreshToken)))) :
    ∃ f, refreshCredentials env s = (.error (.fault f), s.ask .refreshToken) := by
  simp only [Readable, Classical.not_imp, not_forall] at hr
  obtain ⟨h401, ho, j, hj, hshape⟩ := hr
  have hdo := doRefreshAuth_apply_of_document (isUtf8_toBytes s.state.refreshToken) ho h401 hj
  rcases hwalk : readRefreshAuth j with f | r
  · rw [hwalk, lift_error] at hdo
    refine ⟨f, ?_⟩
    rw [refreshCredentials, get_bind_apply, refreshAuth,
      bind_apply_of_error (retryRequest_apply_of_error hdo)]
  · exact absurd (succeeds_readRefreshAuth_iff.mp ⟨r, hwalk⟩) hshape

end RefreshCredentials

/-! ## Requests with credentials -/

section AuthorizedRequest

variable {e : Endpoint} {unreachable refused : Retryable T}
  {answer : HttpOutcome → Http Credentials (Retryable T)} {env : Environment}
  {s : Session Credentials} {depth : ℕ}

/-- An answer that is no 401 ends the request, -/
theorem authorizedRequest_apply_of_answered (h : ¬ Unauthorized (env.outcomes e (s.asked e))) :
    authorizedRequest e unreachable refused answer (depth + 1) env s =
      (if (env.outcomes e (s.asked e)).curlResult ≠ .ok then pure unreachable
        else answer (env.outcomes e (s.asked e)) : Http Credentials _) env (s.ask e) := by
  rw [authorizedRequest, exchange_bind_apply]
  by_cases ho : (env.outcomes e (s.asked e)).curlResult = .ok
  · have h401 : (env.outcomes e (s.asked e)).responseCode ≠ 401 := fun h401 => h ⟨ho, h401⟩
    simp only [if_neg (not_not.mpr ho), if_neg h401]
  · simp only [if_pos ho]

/-- and a 401 refreshes the credentials, and makes it again if this is granted. -/
theorem authorizedRequest_apply_of_unauthorized (h : Unauthorized (env.outcomes e (s.asked e))) :
    authorizedRequest e unreachable refused answer (depth + 1) env s =
      (refreshCredentials >>= fun refreshed =>
        if refreshed then authorizedRequest e unreachable refused answer depth
        else pure refused) env (s.ask e) := by
  rw [authorizedRequest, exchange_bind_apply, if_neg (not_not.mpr h.1), if_pos h.2]

variable {final : HttpOutcome → Prop}

/-- What one more level of depth adds: the request returns in one step, or after a
granted refresh if the rest of the chain does. -/
theorem returns_authorizedRequest_succ_iff (he : e ≠ .refreshToken)
    (hanswer : ∀ o s, ¬ Unauthorized o →
      ((if o.curlResult ≠ .ok then pure unreachable else answer o :
        Http Credentials (Retryable T)).Returns env s ↔ final o)) :
    (authorizedRequest e unreachable refused answer (depth + 1)).Returns env s ↔
      (¬ Unauthorized (env.outcomes e (s.asked e)) ∧ final (env.outcomes e (s.asked e))) ∨
      (Unauthorized (env.outcomes e (s.asked e)) ∧
        ¬ Granted env (env.outcomes .refreshToken (s.asked .refreshToken)) ∧
        ((env.outcomes .refreshToken (s.asked .refreshToken)).responseCode ≠ 401 →
          Readable env RefreshShape (env.outcomes .refreshToken (s.asked .refreshToken)))) ∨
      (Unauthorized (env.outcomes e (s.asked e)) ∧
        Granted env (env.outcomes .refreshToken (s.asked .refreshToken)) ∧
        ∃ c, (authorizedRequest e unreachable refused answer depth).Returns env
          { (s.ask e).ask .refreshToken with state := c } ∧
          refreshCredentials env (s.ask e) =
            (.ok true, { (s.ask e).ask .refreshToken with state := c })) := by
  have hask : (s.ask e).asked .refreshToken = s.asked .refreshToken :=
    Function.update_of_ne he.symm _ _
  by_cases hu : Unauthorized (env.outcomes e (s.asked e))
  · rw [Returns, authorizedRequest_apply_of_unauthorized hu]
    by_cases hg : Granted env (env.outcomes .refreshToken (s.asked .refreshToken))
    · -- the request is made again, with the new credentials
      rw [← hask] at hg
      obtain ⟨c, hc⟩ := refreshCredentials_of_granted hg
      rw [bind_apply_of_ok hc, ← hask, hc]
      simp only [hu, hg, not_true_eq_false, false_and, false_or, true_and, if_true]
      constructor
      · exact fun h => ⟨c, h, rfl⟩
      · rintro ⟨c', h, hcc⟩
        rwa [(Prod.mk.inj hcc).2]
    · by_cases hr : (env.outcomes .refreshToken (s.asked .refreshToken)).responseCode ≠ 401 →
          Readable env RefreshShape (env.outcomes .refreshToken (s.asked .refreshToken))
      · have hfalse := refreshCredentials_of_refused (hask ▸ hg) (hask ▸ hr)
        rw [bind_apply_of_ok hfalse]
        refine iff_of_true ⟨refused, rfl⟩ (.inr (.inl ⟨hu, hg, hr⟩))
      · -- the refresh throws, and the request with it
        obtain ⟨f, hf⟩ := refreshCredentials_of_unreadable (hask ▸ hr)
        rw [bind_apply_of_error hf]
        simp only [reduceCtorEq, exists_false, hu, hg, hr, not_true_eq_false, false_and, and_false,
          or_self]
  · rw [Returns, authorizedRequest_apply_of_answered hu]
    simp only [hu, not_false_eq_true, true_and, false_and, or_false]
    exact hanswer _ _ hu

/-- **The chain of refreshes decides.**  With enough depth an authorized request
returns exactly if its chain of exchanges ends well. -/
theorem returns_authorizedRequest_iff (he : e ≠ .refreshToken)
    (hanswer : ∀ o s, ¬ Unauthorized o →
      ((if o.curlResult ≠ .ok then pure unreachable else answer o :
        Http Credentials (Retryable T)).Returns env s ↔ final o)) :
    (∃ depth, (authorizedRequest e unreachable refused answer depth).Returns env s) ↔
      ChainEnds env e final (s.asked e) (s.asked .refreshToken) := by
  have hnext : ∀ (s : Session Credentials) (c : Credentials),
      ({ (s.ask e).ask .refreshToken with state := c } : Session Credentials).asked e =
          s.asked e + 1 ∧
        ({ (s.ask e).ask .refreshToken with state := c } : Session Credentials).asked
          .refreshToken = s.asked .refreshToken + 1 := by
    intro s c
    simp [Session.ask, he, he.symm]
  constructor
  · -- the depth bounds the length of the chain
    rintro ⟨depth, h⟩
    induction depth generalizing s with
    | zero =>
        obtain ⟨v, hv⟩ := h
        cases hv
    | succ depth ih =>
        rcases (returns_authorizedRequest_succ_iff he hanswer).mp h with
          ⟨hu, hf⟩ | ⟨hu, hg, hr⟩ | ⟨hu, hg, c, hrest, -⟩
        · exact .answered hu hf
        · exact .refused hu hg hr
        · refine .refreshed hu hg ?_
          have := ih hrest
          rwa [(hnext s c).1, (hnext s c).2] at this
  · intro h
    -- the induction is on the chain; the credentials it installs are followed in `s`
    generalize hm : s.asked e = m at h
    generalize hn : s.asked .refreshToken = n at h
    induction h generalizing s with
    | answered hu hf =>
        subst hm
        exact ⟨1, (returns_authorizedRequest_succ_iff he hanswer).mpr (.inl ⟨hu, hf⟩)⟩
    | refused hu hg hr =>
        subst hm hn
        exact ⟨1, (returns_authorizedRequest_succ_iff he hanswer).mpr (.inr (.inl ⟨hu, hg, hr⟩))⟩
    | refreshed hu hg hrest ih =>
        subst hm hn
        have hask : (s.ask e).asked .refreshToken = s.asked .refreshToken :=
          Function.update_of_ne he.symm _ _
        obtain ⟨c, hc⟩ := refreshCredentials_of_granted (hask ▸ hg)
        obtain ⟨depth, hdepth⟩ := ih (hnext s c).1 (hnext s c).2
        exact ⟨depth + 1, (returns_authorizedRequest_succ_iff he hanswer).mpr
          (.inr (.inr ⟨hu, hg, c, hdepth, hc⟩))⟩

end AuthorizedRequest

/-- The retry wrapper around an authorized request changes nothing. -/
theorem exists_returns_retryRequest_iff {empty : T} {request : ℕ → Http Credentials (Retryable T)}
    (hrequest : ∀ depth, Completes (request depth)) {env : Environment}
    {s : Session Credentials} :
    (∃ depth, (retryRequest empty (request depth)).Returns env s) ↔
      ∃ depth, (request depth).Returns env s :=
  exists_congr fun depth => returns_retryRequest_iff (hrequest depth)

/-- The user information returns exactly if its chain of exchanges ends well. -/
theorem returns_getUserInfo_iff {env : Environment} {s : Session Credentials} :
    (∃ depth, (getUserInfo depth).Returns env s) ↔
      ChainEnds env .user (Readable env UserShape) (s.asked .user) (s.asked .refreshToken) := by
  rw [← returns_authorizedRequest_iff (by decide) fun o s _ =>
    returns_reply_iff (fun _ => succeeds_readUserInfo_iff)]
  exact exists_returns_retryRequest_iff completes_doGetUserInfo

/-- A heartbeat answered with another status than 200 is not read. -/
theorem returns_heartbeatStream_iff {env : Environment} {s : Session Credentials} :
    (∃ depth, (heartbeatStream depth).Returns env s) ↔
      ChainEnds env .heartbeat
        (fun o => o.responseCode = 200 → Readable env HeartbeatShape o)
        (s.asked .heartbeat) (s.asked .refreshToken) := by
  rw [← returns_authorizedRequest_iff (by decide)]
  · exact exists_returns_retryRequest_iff completes_doHeartbeatStream
  · intro o s _
    by_cases h200 : o.responseCode = 200
    · simp only [h200, ne_eq, not_true_eq_false, if_false, true_implies]
      exact returns_reply_iff (fun _ => succeeds_readHeartbeat_iff)
    · simp only [h200, ne_eq, not_false_eq_true, if_true, ite_self, false_implies, iff_true]
      exact returns_pure _ _ _

/-! ## The version check -/

/-- The first outcome is unread, and the rest decides, or it decides itself. -/
theorem versionReadable_succ_iff {env : Environment} {first tries : ℕ} :
    VersionReadable env first (tries + 1) ↔
      Readable env VersionShape (env.outcomes .versionCheck first) ∧
        (Unread env (env.outcomes .versionCheck first) →
          VersionReadable env (first + 1) tries) := by
  constructor
  · intro h
    refine ⟨h 0 (Nat.succ_pos _) (fun k hk => absurd hk (Nat.not_lt_zero k)), fun hu i hi hk => ?_⟩
    have := h (i + 1) (by omega) fun k hk' => by
      rcases k with _ | k
      · exact hu
      · have := hk k (by omega)
        rwa [Nat.add_right_comm] at this
    rwa [Nat.add_right_comm]
  · rintro ⟨h0, hrest⟩ i hi hk
    rcases i with _ | i
    · exact h0
    · have hu : Unread env (env.outcomes .versionCheck first) := hk 0 (Nat.succ_pos _)
      have := hrest hu i (by omega) fun k hk' => by
        have := hk (k + 1) (by omega)
        rwa [← Nat.add_assoc, Nat.add_right_comm] at this
      rwa [Nat.add_right_comm] at this

/-- An unread outcome asks for another try, -/
theorem doCheckVersion_apply_of_unread {env : Environment} {s : Session σ}
    (h : Unread env (env.outcomes .versionCheck (s.asked .versionCheck))) :
    doCheckVersion env s = (.ok (retry .failure), s.ask .versionCheck) := by
  rw [doCheckVersion, exchange_bind_apply]
  by_cases ho : (env.outcomes .versionCheck (s.asked .versionCheck)).curlResult = .ok
  · rw [if_neg (not_not.mpr ho), readBody, parseBody_bind_apply, h.resolve_left (not_not.mpr ho)]
    rfl
  · rw [if_pos ho]
    rfl

/-- and a document is walked. -/
theorem doCheckVersion_apply_of_read {env : Environment} {s : Session σ} {j : Json}
    (ho : (env.outcomes .versionCheck (s.asked .versionCheck)).curlResult = .ok)
    (hj : env.document (env.outcomes .versionCheck (s.asked .versionCheck)) = some j) :
    doCheckVersion env s = lift (readVersion j) env (s.ask .versionCheck) := by
  rw [doCheckVersion, exchange_bind_apply, if_neg (not_not.mpr ho), readBody,
    parseBody_bind_apply, hj]

theorem walkCompletes_readVersion : WalkCompletes readVersion := by
  intro j r h
  unfold readVersion at h
  split at h
  · exact isComplete_of_bind (fun _ => isComplete_of_pure) r h
  · exact isComplete_of_pure r h

/-- The tries go on as long as the outcomes are unread, and stop at the first
document. -/
theorem returns_retryLoop_doCheckVersion_iff {env : Environment} {s : Session σ} {tries : ℕ}
    {retryable : Retryable Result} :
    (retryLoop doCheckVersion tries retryable).Returns env s ↔
      VersionReadable env (s.asked .versionCheck) tries := by
  induction tries generalizing s retryable with
  | zero =>
      apply iff_of_true (returns_pure _ _ _)
      intro i hi
      omega
  | succ tries ih =>
      rw [versionReadable_succ_iff, retryLoop, Returns]
      by_cases hu : Unread env (env.outcomes .versionCheck (s.asked .versionCheck))
      · -- nothing to walk: the next try decides
        have hr : Readable env VersionShape
            (env.outcomes .versionCheck (s.asked .versionCheck)) := by
          intro ho j hj
          rw [hu.resolve_left (not_not.mpr ho)] at hj
          cases hj
        rw [bind_apply_of_ok (doCheckVersion_apply_of_unread hu)]
        simp only [hr, hu, true_and, true_implies]
        have hask : (s.ask .versionCheck).asked .versionCheck = s.asked .versionCheck + 1 :=
          by simp [Session.ask]
        rw [← hask]
        exact ih
      · -- a document: its walk decides, and there is no further try
        rw [Unread, not_or, not_not] at hu
        obtain ⟨ho, hsome⟩ := hu
        obtain ⟨j, hj⟩ := Option.ne_none_iff_exists'.mp hsome
        have hrd : Readable env VersionShape
            (env.outcomes .versionCheck (s.asked .versionCheck)) ↔ VersionShape j := by
          constructor
          · exact fun h => h ho j hj
          · intro h _ j' hj'
            rwa [← Option.some.inj (hj.symm.trans hj')]
        have hnot : ¬ Unread env (env.outcomes .versionCheck (s.asked .versionCheck)) :=
          fun h => h.elim (· ho) hsome
        rw [hrd, ← succeeds_readVersion_iff]
        simp only [hnot, false_implies, and_true]
        rcases hw : readVersion j with f | r
        · have hdo := doCheckVersion_apply_of_read ho hj
          rw [hw, lift_error] at hdo
          rw [bind_apply_of_error hdo]
          simp
        · have hdo := doCheckVersion_apply_of_read ho hj
          rw [hw, lift_ok] at hdo
          rw [bind_apply_of_ok hdo, walkCompletes_readVersion j r hw]
          simp

/-- The version check returns exactly if there is nothing to check, or the first document that is
read has its shape. -/
theorem returns_checkVersion_iff {env : Environment} {s : Session σ} :
    checkVersion.Returns env s ↔
      env.clientType.isEmpty ∨ env.clientVersion.isEmpty ∨
        VersionReadable env (s.asked .versionCheck) numRetries := by
  rw [Returns, checkVersion]
  by_cases hinfo : env.clientType.isEmpty ∨ env.clientVersion.isEmpty
  · rw [if_pos hinfo]
    exact iff_of_true ⟨_, rfl⟩ (or_assoc.mp (.inl hinfo))
  · rw [if_neg hinfo, ← or_assoc, or_iff_right hinfo, retryRequest]
    exact returns_bind_pure_iff.trans returns_retryLoop_doCheckVersion_iff

/-! ## All wrappers -/

/-- **When the wrappers return.**  From any point of a session, each wrapper
returns a value exactly if the documents it walks have the shapes its walks take
for granted, the texts it sends are UTF-8, and the refreshes it makes come to an
end. -/
theorem wrappers_return_iff (env : Environment) (s : Session Credentials)
    (username password refreshToken : Bytes) (otp : Option Bytes) :
    (checkVersion.Returns env s ↔
      env.clientType.isEmpty ∨ env.clientVersion.isEmpty ∨
        VersionReadable env (s.asked .versionCheck) numRetries) ∧
    ((signIn username password otp).Returns env s ↔
      (signInTexts username password otp).all isUtf8 ∧
        ((env.outcomes .signIn (s.asked .signIn)).responseCode ≠ 401 →
          Readable env SignInShape (env.outcomes .signIn (s.asked .signIn)))) ∧
    ((refreshAuth refreshToken).Returns env s ↔
      isUtf8 refreshToken ∧
        ((env.outcomes .refreshToken (s.asked .refreshToken)).responseCode ≠ 401 →
          Readable env RefreshShape (env.outcomes .refreshToken (s.asked .refreshToken)))) ∧
    ((∃ depth, (getUserInfo depth).Returns env s) ↔
      ChainEnds env .user (Readable env UserShape) (s.asked .user) (s.asked .refreshToken)) ∧
    (getSupportedGames.Returns env s ↔
      Readable env GamesShape (env.outcomes .games (s.asked .games))) ∧
    ((∃ depth, (heartbeatStream depth).Returns env s) ↔
      ChainEnds env .heartbeat (fun o => o.responseCode = 200 → Readable env HeartbeatShape o)
        (s.asked .heartbeat) (s.asked .refreshToken)) ∧
    (getEncoderInfo.Returns env s ↔
      Readable env EncoderInfoShape (env.outcomes .encoderInfo (s.asked .encoderInfo))) :=
  ⟨returns_checkVersion_iff, returns_signIn_iff, returns_refreshAuth_iff, returns_getUserInfo_iff,
    returns_getSupportedGames_iff, returns_heartbeatStream_iff, returns_getEncoderInfo_iff⟩

/-- A server that answers every request with a document whose only member is
`encoder_type`. -/
def encoderTypeOnly : Environment where
  clientType := toBytes "OBS"
  clientVersion := toBytes "24.0"
  outcomes _ _ := ⟨.ok, 200, toBytes "\x7b\"encoder_type\":\"x264\"\x7d"⟩
  parse body :=
    if body = toBytes "\x7b\"encoder_type\":\"x264\"\x7d" then
      some (.object [("encoder_type", .string "x264")])
    else none

/-- With this server the heartbeat throws for want of `connection_quality`, and
the encoder information is read through an absent member. -/
theorem encoderTypeOnly_stops :
    (∀ depth, (heartbeatStream (depth + 1) encoderTypeOnly
        (Session.start ⟨"access", "refresh", "caid", "credential"⟩)).1 =
      .error (.fault (.outOfRange 403))) ∧
    (getEncoderInfo encoderTypeOnly
        (Session.start ⟨"access", "refresh", "caid", "credential"⟩ : Session Credentials)).1 =
      .error (.fault .undefined) ∧
    ¬ ∀ (env : Environment) (s : Session Credentials),
      (∃ depth, (heartbeatStream depth).Returns env s) ∧ getEncoderInfo.Returns env s := by
  have hheartbeat : ∀ depth, (heartbeatStream (depth + 1) encoderTypeOnly
      (Session.start ⟨"access", "refresh", "caid", "credential"⟩)).1 =
        .error (.fault (.outOfRange 403)) := by
    intro depth
    rfl
  have hencoder : (getEncoderInfo encoderTypeOnly
      (Session.start ⟨"access", "refresh", "caid", "credential"⟩ : Session Credentials)).1 =
        .error (.fault .undefined) := by
    rfl
  refine ⟨hheartbeat, hencoder, fun h => ?_⟩
  obtain ⟨v, hv⟩ := (h encoderTypeOnly (Session.start _)).2
  rw [hencoder] at hv
  cases hv

end Caff
