/-
# The refresh token that the application is given

`Instance` keeps the refresh token of an authentication beside the shared credentials, and
`caff_getRefreshToken` returns that copy.  The requests refresh the credentials and not the
copy.  This file says in which runs of the API the two are the same in every state.
-/
import Caffeine.SlotAfterFailure

namespace Caff

open Http

/-! ## The two copies -/

/-- The text that `getRefreshToken` points to. -/
def Instance.getRefreshToken (i : Instance) : Option String := i.refreshToken

/-- **The property**: the token of the shared credentials when signed in, and none otherwise. -/
def TokenAgrees (i : Instance) : Prop :=
  i.getRefreshToken = if i.isSignedIn then i.sharedCredentials.map (·.refreshToken) else none

/-- There is a token where there are credentials, and without these there is no user. -/
structure TokenInv (i : Instance) : Prop where
  token : i.refreshToken = none ↔ i.sharedCredentials = none
  user : i.sharedCredentials = none → i.userInfo = none

/-! ## The condition -/

/-- The refreshes that `getUserInfo` makes leave the refresh token as it is. -/
def KeepsRefreshToken (depth : ℕ) (env : Environment) (s : Session Credentials) : Prop :=
  (getUserInfo depth env s).2.state.refreshToken = s.state.refreshToken

/-- In an authentication that gets credentials, `getUserInfo` either brings no user, or leaves
the refresh token as it is; and if it throws there is a user from before. -/
def GrantStays (authFunc : Http Instance AuthResponse) (depth : ℕ) (env : Environment)
    (i : Instance) : Prop :=
  i.broadcast = none → ∀ response s c, authFunc env (Session.start i) = (.ok response, s) →
    response.credentials = some c → (getUserInfo depth env ⟨s.asked, c⟩).1 ≠ .ok none →
    KeepsRefreshToken depth env ⟨s.asked, c⟩ ∧
      ((∃ e, (getUserInfo depth env ⟨s.asked, c⟩).1 = .error e) → i.userInfo ≠ none)

/-- `startBroadcast` asks for the user, having checked the version. -/
def AsksForUser (env : Environment) (i : Instance) (s : Session Instance) : Prop :=
  i.isSignedIn = true ∧ i.canBroadcast = false ∧
    ∃ version, checkVersion env (Session.start i) = (.ok version, s) ∧ version ≠ .oldVersion

/-- There is at most one session in which it does. -/
theorem AsksForUser.unique {env : Environment} {i : Instance} {s s' : Session Instance}
    (h : AsksForUser env i s) (h' : AsksForUser env i s') : s = s' := by
  obtain ⟨-, -, version, hv, -⟩ := h
  obtain ⟨-, -, version', hv', -⟩ := h'
  rw [hv, Prod.mk.injEq] at hv'
  exact hv'.2

/-- The condition for a step: the requests of the call, and a request in the background,
leave the refresh token as it is. -/
def TokenStays (i : Instance) (a : ApiStep) : Prop :=
  match a.call with
  | .signIn pings username password otp =>
      username.isEmpty = false → password.isEmpty = false →
        checkInternetConnection pings ≠ .internetDisconnected →
        GrantStays (Caff.signIn username password otp) a.depth a.env i
  | .refreshAuth refreshToken =>
      refreshToken.isEmpty = false → GrantStays (Caff.refreshAuth refreshToken) a.depth a.env i
  | .startBroadcast .. =>
      ∀ s c, AsksForUser a.env i s → i.sharedCredentials = some c →
        KeepsRefreshToken a.depth a.env ⟨s.asked, c⟩
  | .refreshInBackground credentials =>
      ∀ c, i.sharedCredentials = some c → credentials.refreshToken = c.refreshToken
  | .signOut | .endBroadcast => True

/-! ## Signed out, and with credentials -/

section

variable {i i' : Instance} {c : Credentials} {token : String}

theorem tokenInv_of_signedOut (h : SignedOut i) : TokenInv i where
  token := iff_of_true h.2.1 h.1
  user _ := h.2.2

theorem tokenAgrees_of_signedOut (h : SignedOut i) : TokenAgrees i := by
  unfold TokenAgrees Instance.getRefreshToken Instance.isSignedIn
  rw [h.1, h.2.1]
  rfl

theorem tokenInv_of_some (hc : i.sharedCredentials = some c) (ht : i.refreshToken = some token) :
    TokenInv i := by
  constructor
  · rw [hc, ht]
    exact iff_of_false (Option.some_ne_none _) (Option.some_ne_none _)
  · intro hnone
    rw [hc] at hnone
    cases hnone

/-- With credentials, the copies agree if there is a user and the tokens are the same. -/
theorem tokenAgrees_some_iff (hc : i.sharedCredentials = some c)
    (ht : i.refreshToken = some token) :
    TokenAgrees i ↔ i.userInfo ≠ none ∧ c.refreshToken = token := by
  unfold TokenAgrees Instance.getRefreshToken Instance.isSignedIn
  rw [hc, ht]
  rcases hu : i.userInfo with _ | u
  · simp
  · simp [eq_comm]

/-- A coherent pair of copies is none at all, or of one token with a user. -/
theorem TokenInv.cases (h : TokenInv i) (hagrees : TokenAgrees i) :
    SignedOut i ∨ ∃ c, i.sharedCredentials = some c ∧ i.refreshToken = some c.refreshToken ∧
      i.userInfo ≠ none := by
  rcases hc : i.sharedCredentials with _ | c
  · left
    exact ⟨hc, h.token.mpr hc, h.user hc⟩
  · right
    have hne : i.refreshToken ≠ none := by
      intro hnone
      rw [h.token.mp hnone] at hc
      cases hc
    obtain ⟨token, ht⟩ := Option.ne_none_iff_exists'.mp hne
    obtain ⟨hu, htoken⟩ := (tokenAgrees_some_iff hc ht).mp hagrees
    refine ⟨c, rfl, ?_, hu⟩
    rw [ht, htoken]

end

/-! ## The calls -/

section

variable {env : Environment} {i i' : Instance} {depth : ℕ} {result : Result}

/-- **An authentication.** -/
theorem tokenAgrees_authenticate_iff {authFunc : Http Instance AuthResponse}
    (hauth : Triple env (fun s => s.state = i) authFunc
      (fun _ s => True ∧ s.state = i) (fun s => s.state = i))
    (hinv : TokenInv i) (hagrees : TokenAgrees i)
    (h : catchAll .failure (Instance.authenticate authFunc depth) env i = some (result, i')) :
    TokenInv i' ∧ (TokenAgrees i' ↔ GrantStays authFunc depth env i) := by
  rcases authenticate_cases (Q := fun _ => True) hauth h with ⟨rfl, hno⟩ |
    ⟨hb, response, s, c, hf, hc, -, hcase⟩
  · -- no credentials were granted, and nothing has changed
    refine ⟨hinv, iff_of_true hagrees ?_⟩
    intro hb response s c hf hc
    exact absurd hc (hno hb response s c hf)
  -- the condition is about the one request for the user
  have hstays : GrantStays authFunc depth env i ↔
      ((getUserInfo depth env ⟨s.asked, c⟩).1 ≠ .ok none →
        KeepsRefreshToken depth env ⟨s.asked, c⟩ ∧
          ((∃ e, (getUserInfo depth env ⟨s.asked, c⟩).1 = .error e) → i.userInfo ≠ none)) := by
    constructor
    · intro hstays
      exact hstays hb response s c hf hc
    · intro hone _ response' s' c' hf' hc'
      rw [hf, Prod.mk.injEq, Except.ok.injEq] at hf'
      obtain ⟨rfl, rfl⟩ := hf'
      rw [hc, Option.some.injEq] at hc'
      subst hc'
      exact hone
  rw [hstays]
  unfold KeepsRefreshToken
  rcases hcase with ⟨t, hg, rfl⟩ | ⟨u, t, hg, -, rfl⟩ | ⟨f, t, hg, -, rfl⟩
  · -- no user: the members are reset
    have hout : SignedOut { i with
      sharedCredentials := none, refreshToken := none, userInfo := none } := ⟨rfl, rfl, rfl⟩
    rw [hg]
    refine ⟨tokenInv_of_signedOut hout, iff_of_true (tokenAgrees_of_signedOut hout) ?_⟩
    intro hne
    exact absurd rfl hne
  · -- a user, and the credentials as `getUserInfo` leaves them
    refine ⟨tokenInv_of_some rfl rfl, ?_⟩
    rw [tokenAgrees_some_iff rfl rfl, hg]
    simp
  · -- an exception leaves the user of before
    refine ⟨tokenInv_of_some rfl rfl, ?_⟩
    rw [tokenAgrees_some_iff rfl rfl, hg]
    simp [and_comm]

/-- The instance has these credentials, this token and a user. -/
def SignedInWith (c : Credentials) (token : Option String) (i : Instance) : Prop :=
  i.sharedCredentials = some c ∧ i.refreshToken = token ∧ i.userInfo ≠ none

/-- The credentials `startBroadcast` goes on with, once it has checked the version. -/
def credentialsToStart (depth : ℕ) (env : Environment) (s : Session Instance)
    (c : Credentials) : Credentials :=
  if s.state.canBroadcast then c else (getUserInfo depth env ⟨s.asked, c⟩).2.state

theorem signedInWith_refreshCanBroadcast {s s' : Session Instance} {c : Credentials}
    {token : Option String} {x : Except Stop Bool} (hs : SignedInWith c token s.state)
    (h : Instance.refreshCanBroadcast depth env s = (x, s')) :
    SignedInWith (credentialsToStart depth env s c) token s'.state := by
  obtain ⟨hc, htoken, hu⟩ := hs
  unfold Instance.refreshCanBroadcast at h
  rw [get_bind_apply] at h
  unfold credentialsToStart
  by_cases hcan : s.state.canBroadcast = true
  · rw [if_pos hcan, pure_apply, Prod.mk.injEq] at h
    rw [if_pos hcan, ← h.2]
    exact ⟨hc, htoken, hu⟩
  · rw [if_neg hcan] at h
    rw [if_neg hcan]
    rcases hg : getUserInfo depth env ⟨s.asked, c⟩ with ⟨e | u, t⟩
    · rw [bind_apply_of_error (onSharedCredentials_apply hc hg), Prod.mk.injEq] at h
      rw [← h.2]
      exact ⟨rfl, htoken, hu⟩
    · rw [bind_apply_of_ok (onSharedCredentials_apply hc hg)] at h
      rcases u with _ | u
      · dsimp only at h
        rw [pure_apply, Prod.mk.injEq] at h
        rw [← h.2]
        exact ⟨rfl, htoken, hu⟩
      · -- a user who may broadcast replaces the one there is
        dsimp only at h
        split at h
        · rw [modify_bind_apply, pure_apply, Prod.mk.injEq] at h
          rw [← h.2]
          exact ⟨rfl, htoken, Option.some_ne_none u⟩
        · rw [pure_apply, Prod.mk.injEq] at h
          rw [← h.2]
          exact ⟨rfl, htoken, hu⟩

theorem triple_startInSlot_signedInWith {c : Credentials} {token : Option String} {title : Bytes}
    {rating : Rating} {gameId : Bytes} :
    Triple env (fun s => SignedInWith c token s.state) (Instance.startInSlot title rating gameId)
      (fun _ s => SignedInWith c token s.state) (fun s => SignedInWith c token s.state) := by
  apply Triple.get.bind
  intro i
  apply Triple.ite
  · intro _
    exact Triple.pure fun _ h => h.2
  · intro _
    rcases i.userInfo with _ | userInfo
    · exact Triple.lift.weaken (fun _ h => h.2) fun _ _ h => h.2
    · apply Triple.bind (Q := fun _ s => SignedInWith c token s.state)
      · exact Triple.modify fun _ h => h.2
      · intro _
        apply Triple.bind (Q := fun _ s => SignedInWith c token s.state)
        · exact triple_getEncoderInfo.bind fun info => Triple.modify fun _ h => h
        · intro _
          exact Triple.pure fun _ h => h

/-- **Starting a broadcast** goes on with the credentials as they are, or as the request for
the user leaves them. -/
theorem signedInWith_caffStartBroadcast {c : Credentials} {token : Option String} {title : Bytes}
    {rating : Rating} {gameId : Bytes} (hi : SignedInWith c token i)
    (h : caffStartBroadcast title rating gameId depth env i = some (result, i')) :
    (∃ s, AsksForUser env i s ∧
      SignedInWith (getUserInfo depth env ⟨s.asked, c⟩).2.state token i') ∨
    (∀ s, ¬ AsksForUser env i s) ∧ SignedInWith c token i' := by
  have hsigned : i.isSignedIn = true := by
    unfold Instance.isSignedIn
    rw [hi.1]
    exact Option.isSome_iff_ne_none.mpr hi.2.2
  have hversion : Triple env (fun s => s.state = i) checkVersion (fun _ s => s.state = i)
      (fun s => s.state = i) := triple_checkVersion (I := fun j => j = i)
  replace hversion := hversion (Session.start i) rfl
  rcases caffStartBroadcast_cases hsigned h with ⟨e, s, hv, -, rfl⟩ | ⟨s, hv, -, rfl⟩ |
    ⟨version, s, x, t, hv, hold, ht, hrest⟩
  · -- the version check throws
    right
    rw [hversion.2 e s hv]
    refine ⟨?_, hi⟩
    rintro s' ⟨-, -, version, hv', -⟩
    rw [hv] at hv'
    cases hv'
  · right
    rw [hversion.1 _ s hv]
    refine ⟨?_, hi⟩
    rintro s' ⟨-, -, version', hv', hold'⟩
    rw [hv, Prod.mk.injEq, Except.ok.injEq] at hv'
    exact hold' hv'.1.symm
  have hs : s.state = i := hversion.1 version s hv
  -- what the rest of the call leaves
  have hcan : SignedInWith (credentialsToStart depth env s c) token t.state :=
    signedInWith_refreshCanBroadcast (hs ▸ hi) ht
  have hafter : SignedInWith (credentialsToStart depth env s c) token i' := by
    rcases hrest with ⟨e, rfl, -, rfl⟩ | ⟨rfl, -, rfl⟩ | ⟨rfl, hcall⟩
    · exact hcan
    · exact hcan
    · have hslot : Triple env
          (fun s' => SignedInWith (credentialsToStart depth env s c) token s'.state)
          (Instance.startInSlot title rating gameId) _ _ := triple_startInSlot_signedInWith
      replace hslot := hslot t hcan
      rcases hx : Instance.startInSlot title rating gameId env t with ⟨e | v, t'⟩
      · rw [(catchAll_of_error (hcall.trans hx) h).2]
        exact hslot.2 e t' hx
      · rw [(catchAll_of_ok (hcall.trans hx) h).2]
        exact hslot.1 v t' hx
  unfold credentialsToStart at hafter
  rw [hs] at hafter
  by_cases hcan : i.canBroadcast = true
  · right
    rw [if_pos hcan] at hafter
    refine ⟨?_, hafter⟩
    rintro s' ⟨-, hnot, -⟩
    rw [hcan] at hnot
    cases hnot
  · left
    rw [if_neg hcan] at hafter
    exact ⟨s, ⟨hsigned, by simpa using hcan, version, hv, hold⟩, hafter⟩

end

/-! ## Every sequence of calls -/

section

variable {i i' : Instance} {a : ApiStep} {out : List Result}

theorem triple_signIn_state {env : Environment} {username password : Bytes} {otp : Option Bytes} :
    Triple env (fun s => s.state = i) (Caff.signIn username password otp)
      (fun _ s => True ∧ s.state = i) (fun s => s.state = i) :=
  triple_signIn (Q := fun _ => True) (I := fun j => j = i) (fun _ _ => trivial)
    fun _ _ _ _ _ => trivial

theorem triple_refreshAuth_state {env : Environment} {refreshToken : Bytes} :
    Triple env (fun s => s.state = i) (Caff.refreshAuth refreshToken)
      (fun _ s => True ∧ s.state = i) (fun s => s.state = i) :=
  triple_refreshAuth (Q := fun _ => True) (I := fun j => j = i) (fun _ _ => trivial)
    fun _ _ _ _ _ => trivial

/-- **Step lemma.**  From an instance on which the copies agree, they agree after a call
exactly if its requests leave the token as it is. -/
theorem tokenAgrees_step_iff (hinv : TokenInv i) (hagrees : TokenAgrees i)
    (h : apiMachine.step i a = some (i', out)) :
    TokenInv i' ∧ (TokenAgrees i' ↔ TokenStays i a) := by
  cases apiMoves_of_step h with
  | signIn pings username password otp env depth result _ hcall =>
      rcases caffSignIn_cases hcall with ⟨rfl, hrefused⟩ | ⟨⟨hu, hp, hnet⟩, hbody⟩
      · refine ⟨hinv, iff_of_true hagrees ?_⟩
        intro hu hp hnet
        exact absurd ⟨hu, hp, hnet⟩ hrefused
      · obtain ⟨hinv', hiff⟩ := tokenAgrees_authenticate_iff triple_signIn_state hinv hagrees hbody
        exact ⟨hinv', hiff.trans ⟨fun h _ _ _ => h, fun h => h hu hp hnet⟩⟩
  | refreshAuth refreshToken env depth result _ hcall =>
      rcases caffRefreshAuth_cases hcall with ⟨rfl, hrefused⟩ | ⟨ht, hbody⟩
      · refine ⟨hinv, iff_of_true hagrees ?_⟩
        intro ht
        exact absurd ht hrefused
      · obtain ⟨hinv', hiff⟩ :=
          tokenAgrees_authenticate_iff triple_refreshAuth_state hinv hagrees hbody
        exact ⟨hinv', hiff.trans ⟨fun h _ => h, fun h => h ht⟩⟩
  | signOut =>
      have hout : SignedOut i.signOut := ⟨rfl, rfl, rfl⟩
      exact ⟨tokenInv_of_signedOut hout, iff_of_true (tokenAgrees_of_signedOut hout) trivial⟩
  | startBroadcast title rating gameId env depth result _ hcall =>
      rcases hinv.cases hagrees with hout | ⟨c, hc, ht, hu⟩
      · -- signed out, and the attempt is refused
        have hnot : ¬ i.isSignedIn = true := by
          rw [Instance.isSignedIn, hout.1]
          exact Bool.false_ne_true
        rw [(catchAll_of_ok (startBroadcast_apply_of_not_isSignedIn hnot) hcall).2]
        refine ⟨hinv, iff_of_true hagrees ?_⟩
        rintro s c ⟨hsigned, -⟩ -
        exact absurd hsigned hnot
      · rcases signedInWith_caffStartBroadcast ⟨hc, ht, hu⟩ hcall with
          ⟨s, hasks, hc', ht', hu'⟩ | ⟨hnone, hc', ht', hu'⟩
        · refine ⟨tokenInv_of_some hc' ht', ?_⟩
          rw [tokenAgrees_some_iff hc' ht']
          constructor
          · rintro ⟨-, hsame⟩ s' c' hasks' hcreds
            rw [hc, Option.some.injEq] at hcreds
            rw [← hcreds, hasks'.unique hasks]
            exact hsame
          · intro hstays
            exact ⟨hu', hstays s c hasks hc⟩
        · refine ⟨tokenInv_of_some hc' ht', iff_of_true ?_ ?_⟩
          · rw [tokenAgrees_some_iff hc' ht']
            exact ⟨hu', rfl⟩
          · intro s' c' hasks
            exact absurd hasks (hnone s')
  | endBroadcast => exact ⟨⟨hinv.token, hinv.user⟩, iff_of_true hagrees trivial⟩
  | refreshInBackground credentials env depth hsome =>
      rcases hinv.cases hagrees with hout | ⟨c, hc, ht, hu⟩
      · rw [hout.1] at hsome
        cases hsome
      · refine ⟨tokenInv_of_some rfl ht, Iff.trans (tokenAgrees_some_iff rfl ht) ?_⟩
        constructor
        · rintro ⟨-, hsame⟩ c' hcreds
          rw [hc, Option.some.injEq] at hcreds
          rw [← hcreds]
          exact hsame
        · intro hstays
          exact ⟨hu, hstays c hc⟩

/-- **The refresh token over every sequence of calls.**  In every state that is passed
`getRefreshToken` gives the token of the shared credentials when signed in, and none
otherwise, exactly if every step leaves the token as it is. -/
theorem tokenAgrees_iff {tr : List (Instance × ApiStep)} {es : List Result}
    (hrun : apiMachine.Run {} tr es i) :
    (Machine.Meets (fun i _ => TokenAgrees i) tr ∧ TokenAgrees i) ↔
      Machine.Meets TokenStays tr := by
  have hout : SignedOut {} := ⟨rfl, rfl, rfl⟩
  apply hrun.forall_states_iff (P := TokenAgrees) (I := TokenInv)
  · exact tokenAgrees_of_signedOut hout
  · exact tokenInv_of_signedOut hout
  · intro s a s' out hinv hagrees hs
    exact tokenAgrees_step_iff hinv hagrees hs

end

/-! ## A refresh in the background -/

/-- The user signs in with a saved token, and a request refreshes the credentials. -/
def refreshedInBackground (credentials : Credentials) : List ApiStep :=
  [⟨.refreshAuth (toBytes "saved"), fullUser, 1⟩, ⟨.refreshInBackground credentials, fullUser, 1⟩]

/-- The instance after the two steps. -/
theorem exec_refreshedInBackground (credentials : Credentials) :
    apiMachine.exec {} (refreshedInBackground credentials) =
      some ({ sharedCredentials := some credentials, refreshToken := some "refresh",
              userInfo := some ⟨"maya", true⟩ }, [.success]) := by
  have hstep : apiMachine.step {} ⟨.refreshAuth (toBytes "saved"), fullUser, 1⟩ =
      some ({ sharedCredentials := some credentialsOfMaya, refreshToken := some "refresh",
              userInfo := some ⟨"maya", true⟩ }, [.success]) := by
    decide +kernel
  rw [refreshedInBackground, Machine.exec, hstep]
  rfl

/-- Where the server grants the same refresh token again, the copies agree all the way. -/
theorem tokenAgrees_iff_sameToken :
    ∃ tr es i, apiMachine.Run {} tr es i ∧
      i.sharedCredentials = some { credentialsOfMaya with accessToken := "access2" } ∧
      TokenAgrees i ∧
      ((Machine.Meets (fun i _ => TokenAgrees i) tr ∧ TokenAgrees i) ↔
        Machine.Meets TokenStays tr) := by
  have hrun := Machine.Run.of_exec
    (exec_refreshedInBackground { credentialsOfMaya with accessToken := "access2" })
  exact ⟨_, _, _, hrun, rfl, rfl, tokenAgrees_iff hrun⟩

/-- Where it grants another one, the application is given the token that was replaced. -/
theorem not_tokenAgrees_newToken :
    ∃ tr es i, apiMachine.Run {} tr es i ∧ i.isSignedIn = true ∧
      i.sharedCredentials = some { credentialsOfMaya with refreshToken := "refresh2" } ∧
      i.getRefreshToken = some "refresh" ∧ ¬ TokenAgrees i := by
  have hrun := Machine.Run.of_exec
    (exec_refreshedInBackground { credentialsOfMaya with refreshToken := "refresh2" })
  refine ⟨_, _, _, hrun, rfl, rfl, rfl, ?_⟩
  rw [tokenAgrees_some_iff rfl rfl]
  decide

end Caff
