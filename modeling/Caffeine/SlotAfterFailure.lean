/-
# The broadcast slot after a failed start

`Instance::startBroadcast` fills the slot of the instance and then calls
`Broadcast::start`, which asks for the encoder information before it creates the
broadcast thread.  If the walk of that answer throws, the exception unwinds
through the lock and ends at the C boundary, with the slot still full.

This file shows that this is the only way a failed attempt can leave the slot
full, and what that means for the attempts after it.
-/
import Caffeine.Authentication
import Caffeine.RestApiReturns

namespace Caff

open Http

/-! ## Requests that do not ask for the encoder information -/

section Spares

variable {σ T : Type} {e : Endpoint}

/-- A body is read without an exchange. -/
theorem spares_readBody {o : HttpOutcome} {unparsable : Retryable T}
    {walk : Json → Json.Access (Retryable T)} :
    Spares e (readBody o unparsable walk : Http σ _) := by
  apply spares_bind (spares_parseBody o)
  intro parsed
  rcases parsed with _ | j
  · exact spares_pure _
  · exact spares_lift _

/-- The version check asks its endpoint only, -/
theorem spares_checkVersion (he : e ≠ .versionCheck) : Spares e (checkVersion : Http σ _) := by
  have hrequest : Spares e (retryRequest .success doCheckVersion : Http σ _) := by
    refine spares_retryRequest (spares_bind (spares_exchange he) fun o => ?_)
    exact spares_ite (spares_pure _) spares_readBody
  intro env s
  unfold checkVersion
  split
  · rfl
  · exact hrequest env s

/-- a refresh its own, -/
theorem spares_refreshCredentials (he : e ≠ .refreshToken) : Spares e refreshCredentials := by
  apply spares_bind spares_get
  intro creds
  have hrefresh : Spares e (refreshAuth (toBytes creds.refreshToken) : Http Credentials _) := by
    refine spares_retryRequest (spares_bind (spares_lift _) fun _ => ?_)
    apply spares_bind (spares_exchange he)
    intro o
    exact spares_ite (spares_pure _) (spares_ite (spares_pure _) spares_readBody)
  apply spares_bind hrefresh
  intro response
  rcases response.credentials with _ | c
  · exact spares_pure _
  · exact spares_bind (spares_modify _) fun _ => spares_pure _

/-- and the user information these two. -/
theorem spares_getUserInfo (hrefresh : e ≠ .refreshToken) (huser : e ≠ .user) (depth : ℕ) :
    Spares e (getUserInfo depth) := by
  apply spares_retryRequest
  rw [doGetUserInfo]
  induction depth with
  | zero => exact spares_outOfDepth
  | succ depth ih =>
      refine spares_bind (spares_exchange huser) fun o => spares_ite (spares_pure _) ?_
      refine spares_ite (spares_bind (spares_refreshCredentials hrefresh) fun refreshed => ?_)
        spares_readBody
      exact spares_ite ih (spares_pure _)

/-- The credentials of the instance make no difference. -/
theorem spares_onSharedCredentials {request : Http Credentials T} (h : Spares e request) :
    Spares e (onSharedCredentials request) := by
  intro env s
  rcases hc : s.state.sharedCredentials with _ | c
  · simp only [onSharedCredentials, hc]
  · simp only [onSharedCredentials, hc]
    exact h env ⟨s.asked, c⟩

/-- So the encoder information is not asked for before the slot is taken. -/
theorem spares_refreshCanBroadcast (hrefresh : e ≠ .refreshToken) (huser : e ≠ .user)
    (depth : ℕ) : Spares e (Instance.refreshCanBroadcast depth) := by
  refine spares_bind spares_get fun i => spares_ite (spares_pure _) ?_
  refine spares_bind (spares_onSharedCredentials (spares_getUserInfo hrefresh huser depth))
    fun newUserInfo => ?_
  rcases newUserInfo with _ | u
  · exact spares_pure _
  · exact spares_ite (spares_bind (spares_modify _) fun _ => spares_pure _) (spares_pure _)

end Spares

/-! ## Requests without an undefined access -/

section Defined

variable {σ T : Type}

/-- Errors are read through `at`, which is defined on every value, -/
theorem defined_errorText (errors : Json) (key : String) : (errorText errors key).Defined :=
  (Json.defined_atKey errors key).bind fun texts =>
    (Json.defined_atIndex texts 0).bind fun text => Json.defined_getString text

/-- as members are -/
theorem defined_getValueTo {α : Type} {get : Json → Json.Access α} (h : ∀ v, (get v).Defined)
    (json : Json) (key : String) : (getValueTo json key get).Defined :=
  (Json.defined_atKey json key).bind h

/-- and the credentials. -/
theorem defined_credentials (json : Json) : (Credentials.fromJson json).Defined := by
  have hstring := defined_getValueTo Json.defined_getString json
  refine (hstring _).bind fun _ => (hstring _).bind fun _ => ?_
  exact (hstring _).bind fun _ => (hstring _).bind fun _ => Json.Access.defined_pure _

/-- So the walk of the version check is defined, -/
theorem defined_readVersion (responseJson : Json) : (readVersion responseJson).Defined := by
  unfold readVersion
  split
  · exact (defined_errorText _ _).bind fun _ => Json.Access.defined_pure _
  · exact Json.Access.defined_pure _

/-- that of a refresh, -/
theorem defined_readRefreshAuth (responseJson : Json) : (readRefreshAuth responseJson).Defined := by
  unfold readRefreshAuth
  split
  · exact (defined_errorText _ _).bind fun _ => Json.Access.defined_pure _
  · split
    · exact (defined_credentials _).bind fun _ => Json.Access.defined_pure _
    · exact Json.Access.defined_pure _

/-- and that of the user information. -/
theorem defined_readUserInfo (responseJson : Json) : (readUserInfo responseJson).Defined := by
  have huser : ∀ json, (UserInfo.fromJson json).Defined := fun json =>
    (defined_getValueTo Json.defined_getString json _).bind fun _ =>
      (defined_getValueTo Json.defined_getBool json _).bind fun _ => Json.Access.defined_pure _
  unfold readUserInfo
  split
  · exact (defined_errorText _ _).bind fun _ => Json.Access.defined_pure _
  · split
    · exact (huser _).bind fun _ => Json.Access.defined_pure _
    · exact Json.Access.defined_pure _

theorem defined_dump (texts : List Bytes) : (dump texts).Defined := by
  unfold dump Json.Access.Defined
  split <;> simp

/-- A body is read without an undefined access if its walk is. -/
theorem defined_readBody {o : HttpOutcome} {unparsable : Retryable T}
    {walk : Json → Json.Access (Retryable T)} (h : ∀ json, (walk json).Defined) :
    Defined (readBody o unparsable walk : Http σ _) := by
  apply defined_bind (defined_parseBody o)
  intro parsed
  rcases parsed with _ | j
  · exact defined_pure _
  · exact defined_lift (h j)

/-- Hence the version check comes to none, -/
theorem defined_checkVersion : Defined (checkVersion : Http σ _) := by
  have hrequest : Defined (retryRequest .success doCheckVersion : Http σ _) := by
    refine defined_retryRequest (defined_bind (defined_exchange _) fun o => ?_)
    exact defined_ite (defined_pure _) (defined_readBody defined_readVersion)
  intro env s
  unfold checkVersion
  split
  · simp
  · exact hrequest env s

/-- nor does a refresh -/
theorem defined_refreshCredentials : Defined refreshCredentials := by
  apply defined_bind defined_get
  intro creds
  have hrefresh : Defined (refreshAuth (toBytes creds.refreshToken) : Http Credentials _) := by
    refine defined_retryRequest (defined_bind (defined_lift (defined_dump _)) fun _ => ?_)
    apply defined_bind (defined_exchange _)
    intro o
    exact defined_ite (defined_pure _)
      (defined_ite (defined_pure _) (defined_readBody defined_readRefreshAuth))
  apply defined_bind hrefresh
  intro response
  rcases response.credentials with _ | c
  · exact defined_pure _
  · exact defined_bind (defined_modify _) fun _ => defined_pure _

/-- nor the user information, at any depth. -/
theorem defined_getUserInfo (depth : ℕ) : Defined (getUserInfo depth) := by
  apply defined_retryRequest
  rw [doGetUserInfo]
  induction depth with
  | zero => exact defined_outOfDepth
  | succ depth ih =>
      refine defined_bind (defined_exchange _) fun o => defined_ite (defined_pure _) ?_
      refine defined_ite (defined_bind defined_refreshCredentials fun refreshed => ?_)
        (defined_readBody defined_readUserInfo)
      exact defined_ite ih (defined_pure _)

/-- With credentials `refreshCanBroadcast` comes to no undefined access. -/
theorem defined_refreshCanBroadcast (depth : ℕ) (env : Environment) {s : Session Instance}
    (hs : s.state.sharedCredentials ≠ none) :
    (Instance.refreshCanBroadcast depth env s).1 ≠ .error (.fault .undefined) := by
  obtain ⟨c, hc⟩ := Option.ne_none_iff_exists'.mp hs
  unfold Instance.refreshCanBroadcast
  rw [get_bind_apply]
  split
  · simp
  · rcases hx : getUserInfo depth env ⟨s.asked, c⟩ with ⟨e | info, t⟩
    · rw [bind_apply_of_error (onSharedCredentials_apply hc hx)]
      intro he
      apply defined_getUserInfo depth env ⟨s.asked, c⟩
      rw [hx]
      exact congrArg Except.error (Except.error.inj he)
    · rw [bind_apply_of_ok (onSharedCredentials_apply hc hx)]
      rcases info with _ | u
      · simp
      · apply defined_ite (defined_bind (defined_modify _) fun _ => defined_pure _)
        exact defined_pure _

end Defined

/-! ## The way to the slot -/

/-- The instance has a user and no broadcast. -/
def ReadyToStart (i : Instance) : Prop := i.broadcast = none ∧ i.userInfo ≠ none

section Start

variable {env : Environment} {i : Instance} {depth : ℕ} {title gameId : Bytes} {rating : Rating}

/-- The check of the permission keeps the user and the slot. -/
theorem triple_refreshCanBroadcast :
    Triple env (fun s => ReadyToStart s.state) (Instance.refreshCanBroadcast depth)
      (fun _ s => ReadyToStart s.state) (fun s => ReadyToStart s.state) := by
  have hask : Triple env (fun s => ReadyToStart s.state) (onSharedCredentials (getUserInfo depth))
      (fun _ s => ReadyToStart s.state) (fun s => ReadyToStart s.state) :=
    triple_onSharedCredentials (fun _ _ h => h) _
  refine Triple.get.bind fun i => Triple.ite (fun _ => Triple.pure fun _ h => h.2) fun _ => ?_
  refine (hask.weaken (fun _ h => h.2) fun _ _ h => h).bind fun newUserInfo => ?_
  rcases newUserInfo with _ | u
  · exact Triple.pure fun _ h => h
  · refine Triple.ite (fun _ => ?_) fun _ => Triple.pure fun _ h => h
    refine Triple.bind (Q := fun _ s => ReadyToStart s.state) ?_ fun _ => Triple.pure fun _ h => h
    exact Triple.modify fun s h => ⟨h.1, by simp⟩

/-- The checks of `startBroadcast` before it looks at the slot: signed in, not too
old a version, and allowed to broadcast. -/
def Admits (depth : ℕ) (env : Environment) (i : Instance) : Prop :=
  i.isSignedIn = true ∧ ∃ version s t, checkVersion env (Session.start i) = (.ok version, s) ∧
    version ≠ .oldVersion ∧ Instance.refreshCanBroadcast depth env s = (.ok true, t)

/-- The encoder information the attempt asks for can be read. -/
def EncoderInfoReadable (env : Environment) : Prop :=
  Readable env EncoderInfoShape (env.outcomes .encoderInfo 0)

/-- An instance that is signed in has a user. -/
theorem readyToStart_of_isSignedIn (hi : i.broadcast = none) (hsigned : i.isSignedIn = true) :
    ReadyToStart i := by
  refine ⟨hi, fun hu => ?_⟩
  rw [Instance.isSignedIn, hu] at hsigned
  simp at hsigned

/-- Without a sign-in nothing is asked. -/
theorem startBroadcast_apply_of_not_isSignedIn (hsigned : ¬ i.isSignedIn = true) :
    Instance.startBroadcast title rating gameId depth env (Session.start i) =
      (.ok .notSignedIn, Session.start i) := by
  have hnot : (!(Session.start i).state.isSignedIn) = true := by
    simpa [Session.start] using hsigned
  rw [Instance.startBroadcast, get_bind_apply, if_pos hnot, pure_apply]

/-- Signed in, `startBroadcast` goes on to its checks. -/
theorem startBroadcast_apply (hsigned : i.isSignedIn = true) :
    Instance.startBroadcast title rating gameId depth env (Session.start i) =
      (do
        let version ← checkVersion
        if version = .oldVersion then pure .oldVersion
        else do
          let allowed ← Instance.refreshCanBroadcast depth
          if allowed then Instance.startInSlot title rating gameId
          else pure .emailVerificationRequired : Http Instance Result) env (Session.start i) := by
  have hsigned' : ¬ (!(Session.start i).state.isSignedIn) = true := by
    simpa [Session.start] using hsigned
  rw [Instance.startBroadcast, get_bind_apply, if_neg hsigned']

/-- **The ways an attempt goes**, signed in: the version check throws or refuses the version, or
`refreshCanBroadcast` throws, refuses the user, or lets the attempt go on to the slot. -/
theorem caffStartBroadcast_cases (hsigned : i.isSignedIn = true) {result : Result}
    {i' : Instance} (h : caffStartBroadcast title rating gameId depth env i = some (result, i')) :
    (∃ e s, checkVersion env (Session.start i) = (.error e, s) ∧ result = .broadcastFailed ∧
      i' = s.state) ∨
    (∃ s, checkVersion env (Session.start i) = (.ok .oldVersion, s) ∧ result = .oldVersion ∧
      i' = s.state) ∨
    (∃ version s x t, checkVersion env (Session.start i) = (.ok version, s) ∧
      version ≠ .oldVersion ∧ Instance.refreshCanBroadcast depth env s = (x, t) ∧
      ((∃ e, x = .error e ∧ result = .broadcastFailed ∧ i' = t.state) ∨
        (x = .ok false ∧ result = .emailVerificationRequired ∧ i' = t.state) ∨
        (x = .ok true ∧ Instance.startBroadcast title rating gameId depth env (Session.start i) =
          Instance.startInSlot title rating gameId env t))) := by
  rw [caffStartBroadcast] at h
  rcases hv : checkVersion env (Session.start i) with ⟨e | version, s⟩
  · left
    have hbody : Instance.startBroadcast title rating gameId depth env (Session.start i) =
        (.error e, s) := by
      rw [startBroadcast_apply hsigned, bind_apply_of_error hv]
    exact ⟨e, s, rfl, catchAll_of_error hbody h⟩
  right
  by_cases hold : version = .oldVersion
  · left
    have hbody : Instance.startBroadcast title rating gameId depth env (Session.start i) =
        (.ok .oldVersion, s) := by
      rw [startBroadcast_apply hsigned, bind_apply_of_ok hv, if_pos hold, pure_apply]
    exact ⟨s, by rw [hold], catchAll_of_ok hbody h⟩
  right
  rcases ht : Instance.refreshCanBroadcast depth env s with ⟨x, t⟩
  refine ⟨version, s, x, t, rfl, hold, ht, ?_⟩
  rcases x with e | (_ | _)
  · left
    have hbody : Instance.startBroadcast title rating gameId depth env (Session.start i) =
        (.error e, t) := by
      rw [startBroadcast_apply hsigned, bind_apply_of_ok hv, if_neg hold, bind_apply_of_error ht]
    exact ⟨e, rfl, catchAll_of_error hbody h⟩
  · right
    left
    have hbody : Instance.startBroadcast title rating gameId depth env (Session.start i) =
        (.ok .emailVerificationRequired, t) := by
      rw [startBroadcast_apply hsigned, bind_apply_of_ok hv, if_neg hold, bind_apply_of_ok ht]
      rfl
    exact ⟨rfl, catchAll_of_ok hbody h⟩
  · right
    right
    refine ⟨rfl, ?_⟩
    rw [startBroadcast_apply hsigned, bind_apply_of_ok hv, if_neg hold, bind_apply_of_ok ht]
    rfl

/-- An attempt that comes back without having been admitted has failed, and has
not touched the slot. -/
theorem caffStartBroadcast_of_not_admits (hi : i.broadcast = none) (ha : ¬ Admits depth env i)
    {result : Result} {i' : Instance}
    (h : caffStartBroadcast title rating gameId depth env i = some (result, i')) :
    i'.broadcast = none ∧ result ≠ .success ∧ result ≠ .alreadyBroadcasting := by
  by_cases hsigned : i.isSignedIn = true
  swap
  · obtain ⟨rfl, rfl⟩ := catchAll_of_ok (startBroadcast_apply_of_not_isSignedIn hsigned) h
    exact ⟨hi, by decide, by decide⟩
  have hready : ReadyToStart i := readyToStart_of_isSignedIn hi hsigned
  have hversion : Triple env (fun s => ReadyToStart s.state) checkVersion _ _ :=
    triple_checkVersion
  replace hversion := hversion (Session.start i) hready
  rcases caffStartBroadcast_cases hsigned h with ⟨e, s, hv, rfl, rfl⟩ | ⟨s, hv, rfl, rfl⟩ |
    ⟨version, s, x, t, hv, hold, ht, hrest⟩
  · exact ⟨(hversion.2 e s hv).1, by decide, by decide⟩
  · exact ⟨(hversion.1 _ s hv).1, by decide, by decide⟩
  -- whether the user may broadcast
  have hcan : Triple env (fun s => ReadyToStart s.state) (Instance.refreshCanBroadcast depth) _ _ :=
    triple_refreshCanBroadcast
  replace hcan := hcan s (hversion.1 version s hv)
  rcases hrest with ⟨e, rfl, rfl, rfl⟩ | ⟨rfl, rfl, rfl⟩ | ⟨rfl, -⟩
  · exact ⟨(hcan.2 e t ht).1, by decide, by decide⟩
  · exact ⟨(hcan.1 false t ht).1, by decide, by decide⟩
  · exact absurd ⟨hsigned, version, s, t, hv, hold, ht⟩ ha

/-- The part under the lock fills the slot and asks for the encoder information: it
succeeds if that can be read, and throws with the slot full if not. -/
theorem startInSlot_cases {t t' : Session Instance} {x : Except Stop Result}
    (hready : ReadyToStart t.state) (hasked : t.asked .encoderInfo = 0)
    (h : Instance.startInSlot title rating gameId env t = (x, t')) :
    (EncoderInfoReadable env ∧ x = .ok .success) ∨
      (¬ EncoderInfoReadable env ∧ ∃ e, x = .error e ∧ t'.state.broadcast ≠ none) := by
  obtain ⟨hnone, huser⟩ := hready
  obtain ⟨u, hu⟩ := Option.ne_none_iff_exists'.mp huser
  rw [Instance.startInSlot, get_bind_apply] at h
  simp only [hnone, hu, Option.isSome_none, Bool.false_eq_true, if_false] at h
  rw [modify_bind_apply] at h
  -- `w` has the new broadcast in the slot
  generalize hw : ({ t with state := { t.state with
    broadcast := some { username := u.username, title, rating, gameId } } } : Session Instance) = w
    at h
  have hwslot : w.state.broadcast ≠ none := by rw [← hw]; simp
  have hwasked : w.asked .encoderInfo = 0 := by rw [← hw]; exact hasked
  have hreturns : getEncoderInfo.Returns env w ↔ _ := returns_getEncoderInfo_iff
  rw [hwasked] at hreturns
  rcases hg : getEncoderInfo env w with ⟨e | info, w'⟩
  · have hkept : w'.state.broadcast ≠ none :=
      (triple_getEncoderInfo (I := fun i : Instance => i.broadcast ≠ none) w hwslot).2 e w' hg
    have hnot : ¬ EncoderInfoReadable env := by
      intro hread
      obtain ⟨v, hv⟩ := hreturns.mpr hread
      rw [hg] at hv
      cases hv
    have hstart : Instance.start env w = (.error e, w') := by
      rw [Instance.start, bind_apply_of_error hg]
    rw [bind_apply_of_error hstart] at h
    obtain ⟨rfl, rfl⟩ := Prod.mk.inj h
    exact .inr ⟨hnot, e, rfl, hkept⟩
  · have hstart : Instance.start env w = (.ok (), { w' with state := { w'.state with
        broadcast :=
          w'.state.broadcast.map ({ · with targets := some (selectTargets info) }) } }) := by
      rw [Instance.start, bind_apply_of_ok hg]
      rfl
    rw [bind_apply_of_ok hstart, pure_apply] at h
    exact .inl ⟨hreturns.mp ⟨info, by rw [hg]⟩, (Prod.mk.inj h).1.symm⟩

/-- An admitted attempt goes on to the slot, and has not asked for the encoder information. -/
theorem startBroadcast_of_admits (title : Bytes) (rating : Rating) (gameId : Bytes)
    (hi : i.broadcast = none) (ha : Admits depth env i) :
    ∃ t, ReadyToStart t.state ∧ t.asked .encoderInfo = 0 ∧
      Instance.startBroadcast title rating gameId depth env (Session.start i) =
        Instance.startInSlot title rating gameId env t := by
  obtain ⟨hsigned, version, s, t, hv, hold, ht⟩ := ha
  have hs : ReadyToStart s.state :=
    (triple_checkVersion (I := ReadyToStart) _ (readyToStart_of_isSignedIn hi hsigned)).1
      version s hv
  refine ⟨t, (triple_refreshCanBroadcast s hs).1 true t ht, ?_, ?_⟩
  · have h1 := spares_checkVersion (e := .encoderInfo) (by decide) env (Session.start i)
    have h2 := spares_refreshCanBroadcast (e := .encoderInfo) (by decide) (by decide) depth env s
    rw [hv] at h1
    rw [ht] at h2
    rw [h2, h1]
    rfl
  · rw [startBroadcast_apply hsigned, bind_apply_of_ok hv, if_neg hold, bind_apply_of_ok ht]
    rfl

/-- An admitted attempt succeeds if the encoder information can be read, and fails
with the slot full if not. -/
theorem caffStartBroadcast_of_admits (hi : i.broadcast = none) (ha : Admits depth env i)
    {result : Result} {i' : Instance}
    (h : caffStartBroadcast title rating gameId depth env i = some (result, i')) :
    (EncoderInfoReadable env ∧ result = .success) ∨
      (¬ EncoderInfoReadable env ∧ result = .broadcastFailed ∧ i'.broadcast ≠ none) := by
  obtain ⟨t, hready, hasked, hbody⟩ :=
    startBroadcast_of_admits title rating gameId hi ha
  rw [caffStartBroadcast] at h
  rcases hx : Instance.startInSlot title rating gameId env t with ⟨x, t'⟩
  rcases startInSlot_cases hready hasked hx with ⟨hread, rfl⟩ | ⟨hread, e, rfl, hfull⟩
  · exact .inl ⟨hread, (catchAll_of_ok (hbody.trans hx) h).1⟩
  · obtain ⟨rfl, rfl⟩ := catchAll_of_error (hbody.trans hx) h
    exact .inr ⟨hread, rfl, hfull⟩

/-- Only the encoder information can bring an attempt to an undefined access. -/
theorem startBroadcast_ne_undefined (hi : i.broadcast = none)
    (hread : Admits depth env i → EncoderInfoReadable env) :
    (Instance.startBroadcast title rating gameId depth env (Session.start i)).1 ≠
      .error (.fault .undefined) := by
  by_cases ha : Admits depth env i
  · obtain ⟨t, hready, hasked, hbody⟩ :=
      startBroadcast_of_admits title rating gameId hi ha
    rw [hbody]
    rcases hx : Instance.startInSlot title rating gameId env t with ⟨x, t'⟩
    rcases startInSlot_cases hready hasked hx with ⟨-, rfl⟩ | ⟨hnot, -⟩
    · simp
    · exact absurd (hread ha) hnot
  by_cases hsigned : i.isSignedIn = true
  swap
  · rw [startBroadcast_apply_of_not_isSignedIn hsigned]
    simp
  rw [startBroadcast_apply hsigned]
  rcases hv : checkVersion env (Session.start i) with ⟨e | version, s⟩
  · rw [bind_apply_of_error hv]
    have hdefined := defined_checkVersion env (Session.start i)
    rw [hv] at hdefined
    exact hdefined
  rw [bind_apply_of_ok hv]
  by_cases hold : version = .oldVersion
  · rw [if_pos hold]
    simp
  rw [if_neg hold]
  have hcredentials : (Session.start i).state.sharedCredentials ≠ none := by
    intro hnone
    have hnone' : i.sharedCredentials = none := hnone
    rw [Instance.isSignedIn, hnone'] at hsigned
    simp at hsigned
  have hs : s.state.sharedCredentials ≠ none :=
    (triple_checkVersion (I := fun i : Instance => i.sharedCredentials ≠ none) _ hcredentials).1
      version s hv
  have hdefined := defined_refreshCanBroadcast depth env hs
  rcases ht : Instance.refreshCanBroadcast depth env s with ⟨e | _ | _, t⟩
  · rw [bind_apply_of_error ht]
    rw [ht] at hdefined
    intro he
    exact hdefined (congrArg Except.error (Except.error.inj he))
  · rw [bind_apply_of_ok ht]
    simp
  · exact absurd ⟨hsigned, version, s, t, hv, hold, ht⟩ ha

/-- Without a broadcast in the slot no attempt is refused for one. -/
theorem caffStartBroadcast_ne_alreadyBroadcasting (hi : i.broadcast = none) {result : Result}
    {i' : Instance} (h : caffStartBroadcast title rating gameId depth env i = some (result, i')) :
    result ≠ .alreadyBroadcasting := by
  by_cases ha : Admits depth env i
  · rcases caffStartBroadcast_of_admits hi ha h with ⟨-, rfl⟩ | ⟨-, rfl, -⟩ <;> decide
  · exact (caffStartBroadcast_of_not_admits hi ha h).2.2

end Start

/-! ## The attempts after a failed one -/

/-- The step is no attempt to start a broadcast. -/
def StartsNothing (_ : Instance) (a : ApiStep) : Prop :=
  match a.call with
  | .startBroadcast .. => False
  | _ => True

/-- The instance has no broadcast. -/
def SlotEmpty (i : Instance) : Prop := i.broadcast = none

/-- An authentication leaves the slot empty. -/
theorem triple_authenticate_slotEmpty {env : Environment} {authFunc : Http Instance AuthResponse}
    {depth : ℕ}
    (h : Triple env (fun s => SlotEmpty s.state) authFunc
      (fun _ s => SlotEmpty s.state) (fun s => SlotEmpty s.state)) :
    Triple env (fun s => SlotEmpty s.state) (Instance.authenticate authFunc depth)
      (fun _ s => SlotEmpty s.state) (fun s => SlotEmpty s.state) := by
  refine Triple.get.bind fun i => Triple.ite (fun _ => Triple.pure fun _ h => h.2) fun _ => ?_
  refine (h.weaken (fun _ h => h.2) fun _ _ h => h).bind fun response => ?_
  rcases response.credentials with _ | c
  · exact Triple.pure fun _ h => h
  · refine Triple.bind (Q := fun _ s => SlotEmpty s.state) (Triple.modify fun _ h => h)
      fun _ =>
        (triple_onSharedCredentials (I := SlotEmpty) (fun _ _ h => h) _).bind
          fun userInfo => ?_
    refine Triple.bind (Q := fun _ s => SlotEmpty s.state) (Triple.modify fun _ h => h)
      fun _ => Triple.ite (fun _ => ?_) fun _ => Triple.pure fun _ h => h
    exact Triple.bind (Q := fun _ s => SlotEmpty s.state) (Triple.modify fun _ h => h)
      fun _ => Triple.pure fun _ h => h

/-- Calls that start nothing leave an empty slot empty. -/
theorem slotEmpty_of_step {i i' : Instance} {a : ApiStep} {out : List Result}
    (ha : StartsNothing i a) (hi : SlotEmpty i)
    (h : apiMachine.step i a = some (i', out)) : SlotEmpty i' := by
  cases apiMoves_of_step h with
  | startBroadcast => exact ha.elim
  | signIn pings username password otp env depth result _ hcall =>
      have hauth : Triple env (fun s => SlotEmpty s.state)
          (Caff.signIn username password otp) (fun _ s => SlotEmpty s.state)
          (fun s => SlotEmpty s.state) :=
        (triple_signIn (Q := fun _ => True) (I := SlotEmpty)
          (fun _ _ => trivial) fun _ _ _ _ _ => trivial).weaken (fun _ h => h) fun _ _ h => h.2
      rcases caffSignIn_cases hcall with ⟨rfl, -⟩ | ⟨-, hbody⟩
      · exact hi
      · exact catchAll_of_triple (I := SlotEmpty) (triple_authenticate_slotEmpty hauth) hi hbody
  | refreshAuth refreshToken env depth result _ hcall =>
      have hauth : Triple env (fun s => SlotEmpty s.state) (Caff.refreshAuth refreshToken)
          (fun _ s => SlotEmpty s.state) (fun s => SlotEmpty s.state) :=
        (triple_refreshAuth (Q := fun _ => True) (I := SlotEmpty)
          (fun _ _ => trivial) fun _ _ _ _ _ => trivial).weaken (fun _ h => h) fun _ _ h => h.2
      rcases caffRefreshAuth_cases hcall with ⟨rfl, -⟩ | ⟨-, hbody⟩
      · exact hi
      · exact catchAll_of_triple (I := SlotEmpty) (triple_authenticate_slotEmpty hauth) hi hbody
  | signOut => rfl
  | endBroadcast => rfl
  | refreshInBackground credentials env depth hsome => exact hi

/-- What is asked of an attempt that ends in `result` and leaves `i'`: if it failed,
the slot is empty, and a later attempt is not refused for a broadcast, whatever
calls that start nothing come in between. -/
def LeavesSlotFree (result : Result) (i' : Instance) : Prop :=
  result ≠ .success → i'.broadcast = none ∧
    ∀ tr es j, apiMachine.Run i' tr es j → Machine.Meets StartsNothing tr →
      ∀ title rating gameId depth env later j',
        caffStartBroadcast title rating gameId depth env j = some (later, j') →
        later ≠ .alreadyBroadcasting

/-- An empty slot is free. -/
theorem leavesSlotFree_of_broadcast_eq_none {result : Result} {i' : Instance}
    (hi' : i'.broadcast = none) : LeavesSlotFree result i' := by
  refine fun _ => ⟨hi', fun tr es j hrun hmeets title rating gameId depth env later j' h => ?_⟩
  have hj : j.broadcast = none :=
    hrun.induction_on_steps (I := fun _ i => SlotEmpty i) hi'
      (fun _ i a i'' out hi ha hs => slotEmpty_of_step ha hi hs) hmeets
  exact caffStartBroadcast_ne_alreadyBroadcasting hj h

/-- **The slot after an attempt.**  From an instance without a broadcast, an attempt whose
recursions end comes back and leaves the slot free, if it failed, exactly if it was not
admitted to the slot or the encoder information could be read. -/
theorem leavesSlotFree_iff (i : Instance) (hi : i.broadcast = none) (title : Bytes)
    (rating : Rating) (gameId : Bytes) (depth : ℕ) (env : Environment)
    (hdepth : (Instance.startBroadcast title rating gameId depth env (Session.start i)).1 ≠
      .error .outOfDepth) :
    (∃ result i', caffStartBroadcast title rating gameId depth env i = some (result, i') ∧
      LeavesSlotFree result i') ↔ (Admits depth env i → EncoderInfoReadable env) := by
  constructor
  · rintro ⟨result, i', h, hfree⟩ ha
    rcases caffStartBroadcast_of_admits hi ha h with ⟨hread, -⟩ | ⟨-, rfl, hfull⟩
    · exact hread
    · exact absurd (hfree (by decide)).1 hfull
  · intro hread
    obtain ⟨result, i', h⟩ : ∃ result i',
        caffStartBroadcast title rating gameId depth env i = some (result, i') :=
      exists_of_catchAll (startBroadcast_ne_undefined hi hread) hdepth
    refine ⟨result, i', h, ?_⟩
    by_cases ha : Admits depth env i
    · rcases caffStartBroadcast_of_admits hi ha h with ⟨-, rfl⟩ | ⟨hnot, -⟩
      · exact fun hne => absurd rfl hne
      · exact absurd (hread ha) hnot
    · exact leavesSlotFree_of_broadcast_eq_none (caffStartBroadcast_of_not_admits hi ha h).1

/-- A signed-in instance without a broadcast. -/
def instanceOfMaya : Instance where
  sharedCredentials := some credentialsOfMaya
  refreshToken := some "refresh"
  userInfo := some ⟨"maya", true⟩

/-- A server that answers every request with a document whose only member is
`encoder_setting`. -/
def encoderSettingOnly : Environment where
  clientType := toBytes "OBS"
  clientVersion := toBytes "24.0"
  outcomes _ _ := ⟨.ok, 200, toBytes "\x7b\"encoder_setting\":\x7b\x7d\x7d"⟩
  parse body :=
    if body = toBytes "\x7b\"encoder_setting\":\x7b\x7d\x7d" then
      some (.object [("encoder_setting", .object [])])
    else none

/-- The attempt passes the version check, and the encoder information has no
`encoder_type`. -/
theorem leavesSlotFree_iff_encoderSettingOnly :
    (∃ result i', caffStartBroadcast [] .none [] 1 encoderSettingOnly instanceOfMaya =
        some (result, i') ∧ LeavesSlotFree result i') ↔
      (Admits 1 encoderSettingOnly instanceOfMaya → EncoderInfoReadable encoderSettingOnly) := by
  have hthrows : (Instance.startBroadcast [] .none [] 1 encoderSettingOnly
      (Session.start instanceOfMaya)).1 = .error (.fault (.outOfRange 403)) := by
    rfl
  apply leavesSlotFree_iff instanceOfMaya rfl [] .none [] 1 encoderSettingOnly
  rw [hthrows]
  decide

/-- That attempt fails with the slot full, and the next one is refused. -/
theorem not_leavesSlotFree_encoderSettingOnly :
    ∃ i', caffStartBroadcast [] .none [] 1 encoderSettingOnly instanceOfMaya =
        some (.broadcastFailed, i') ∧
      (caffStartBroadcast [] .none [] 1 encoderSettingOnly i').map Prod.fst =
        some .alreadyBroadcasting ∧
      ¬ LeavesSlotFree .broadcastFailed i' := by
  refine ⟨_, rfl, rfl, fun hfree => ?_⟩
  have hnone := (hfree (by decide)).1
  cases hnone

end Caff
