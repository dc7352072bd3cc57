/-
# Requests of several threads on shared credentials

The thread of a broadcast, the setters of the application and the handlers of a subscription
make their requests with one `SharedCredentials`.  A request locks it for as long as it
copies: to make its headers, to read the `caid` for its URL, to read the refresh token, and to
store what a refresh has granted.  The exchanges are made without the lock.  The machine of
this file has the calls of all threads, each between two of its accesses; the outcomes of the
exchanges are in the inputs.

Whatever the order of the accesses, a request carries credentials as they were stored at one
moment, and none that its own call has replaced.
-/
import Caffeine.AuthorizedRequests
import Caffeine.Library.Machine

namespace Caff

open Http
open Machine (holds_of_some)

/-! ## The functions that use shared credentials -/

/-- The requests with credentials, with the arguments that they serialise. -/
inductive RequestFunction
  | getUserInfo
  | trickleCandidates (candidates : List IceInfo)
  | heartbeatStream
  | updateScreenshot
  | graphqlRawRequest (texts : List Bytes)

namespace RequestFunction

def Result : RequestFunction → Type
  | getUserInfo => Option UserInfo
  | trickleCandidates _ => Bool
  | heartbeatStream => Option HeartbeatResponse
  | updateScreenshot => Bool
  | graphqlRawRequest _ => Option Json

/-- What the request is made of. -/
def call : (f : RequestFunction) → AuthorizedCall f.Result
  | getUserInfo => userInfoCall
  | trickleCandidates _ => trickleCall
  | heartbeatStream => heartbeatCall
  | updateScreenshot => screenshotCall
  | graphqlRawRequest _ => graphqlCall

/-- The texts of the body. -/
def texts : RequestFunction → List Bytes
  | trickleCandidates candidates => trickleTexts candidates
  | graphqlRawRequest texts => texts
  | _ => []

/-- The function of `RestApi`. -/
def body : (f : RequestFunction) → ℕ → Http Credentials f.Result
  | getUserInfo => Caff.getUserInfo
  | trickleCandidates candidates => Caff.trickleCandidates candidates
  | heartbeatStream => Caff.heartbeatStream
  | updateScreenshot => Caff.updateScreenshot
  | graphqlRawRequest texts => Caff.graphqlRawRequest texts

end RequestFunction

/-- What a thread calls: a request, or `refreshCredentials` itself, as a subscription does
that is told that its credential has expired. -/
inductive SharedFunction
  | request (f : RequestFunction)
  | refreshCredentials

namespace SharedFunction

def Result : SharedFunction → Type
  | request f => f.Result
  | refreshCredentials => Bool

def body : (f : SharedFunction) → ℕ → Http Credentials f.Result
  | request f => f.body
  | refreshCredentials => fun _ => Caff.refreshCredentials

/-- Where the exchanges are made that do not refresh. -/
def endpoint : SharedFunction → Endpoint
  | request f => f.call.endpoint
  | refreshCredentials => .refreshToken

/-- The result after a refresh that brings nothing. -/
def refused : (f : SharedFunction) → f.Result
  | request f => f.call.refused
  | refreshCredentials => false

end SharedFunction

/-! ## Calls between two accesses -/

/-- `ScopedCurl::authenticatedHeaders`, without the headers that every request has. -/
def authenticatedHeaders (credentials : Credentials) : List String :=
  ["Authorization: Bearer " ++ credentials.accessToken,
    "X-Credential: " ++ credentials.credential]

/-- What a request takes from the credentials. -/
structure Carried where
  headers : List String
  caid : Option String
  deriving DecidableEq, Repr

/-- Where a call is; `used` counts the tries of `retryRequest` before this one. -/
inductive RequestPhase (T : Type)
  | ready (used : ℕ)
  | addressing (used : ℕ) (headers : List String)
  | asking (used : ℕ) (carried : Carried)
  | refreshing (used : ℕ)
  | presenting (used : ℕ) (refreshToken : String)
  | granted (used : ℕ) (credentials : Credentials)
  | ended (result : Json.Access T)

/-- The headers are made: `doGetUserInfo` reads the `caid` for its URL next. -/
def RequestFunction.headed {T : Type} (f : RequestFunction) (used : ℕ) (headers : List String) :
    RequestPhase T :=
  match f with
  | .getUserInfo => .addressing used headers
  | _ => .asking used ⟨headers, none⟩

/-- Between its first access and its end. -/
def RequestPhase.UnderWay {T : Type} : RequestPhase T → Prop
  | .ready _ | .ended _ => False
  | _ => True

namespace SharedFunction

/-- Where a call starts. -/
def begin : (f : SharedFunction) → RequestPhase f.Result
  | request _ => .ready 0
  | refreshCredentials => .refreshing 0

/-- The body is serialised and the headers are made. -/
def carry : (f : SharedFunction) → ℕ → Credentials → Option (RequestPhase f.Result)
  | request f, used, credentials =>
      match dump f.texts with
      | .error fault => some (.ended (.error fault))
      | .ok () => some (f.headed used (authenticatedHeaders credentials))
  | refreshCredentials, _, _ => none

/-- After an exchange: the refresh, the end, or the next try. -/
def answered (env : Environment) :
    (f : SharedFunction) → ℕ → HttpOutcome → Option (RequestPhase f.Result)
  | request f, used, o =>
      if Unauthorized o then some (.refreshing used)
      else
        match f.call.reply env o with
        | .error fault => some (.ended (.error fault))
        | .ok retryable =>
            if isComplete retryable ∨ used + 1 = numRetries then
              some (.ended (.ok retryable.result))
            else some (.ready (used + 1))
  | refreshCredentials, _, _ => none

/-- After a refresh has been answered. -/
def refreshed (env : Environment) (f : SharedFunction) (used : ℕ) (o : HttpOutcome) :
    RequestPhase f.Result :=
  match refreshAnswer env o with
  | .error fault => .ended (.error fault)
  | .ok none => .ended (.ok f.refused)
  | .ok (some credentials) => .granted used credentials

/-- After what was granted has been stored: a request calls itself again. -/
def resumed : (f : SharedFunction) → ℕ → RequestPhase f.Result
  | request _, used => .ready used
  | refreshCredentials, _ => .ended (.ok true)

end SharedFunction

/-! ## The machine -/

/-- The shared credentials, and the calls that use them. -/
structure SharedRequests (calls : ℕ → SharedFunction) where
  credentials : Credentials
  phases : (i : ℕ) → RequestPhase (calls i).Result

/-- What call `i` does that others can see. -/
inductive RequestEvent
  | asked (i : ℕ) (carried : Carried) (o : HttpOutcome)
  | presented (i : ℕ) (refreshToken : String) (o : HttpOutcome)
  | stored (i : ℕ) (credentials : Credentials)
  deriving DecidableEq

/-- An access of call `i`, or an exchange with its outcome. -/
inductive RequestAction
  | carry (i : ℕ)
  | address (i : ℕ)
  | ask (i : ℕ) (o : HttpOutcome)
  | read (i : ℕ)
  | present (i : ℕ) (o : HttpOutcome)
  | store (i : ℕ)

namespace SharedRequests

variable {calls : ℕ → SharedFunction}

def start (calls : ℕ → SharedFunction) (credentials : Credentials) : SharedRequests calls where
  credentials := credentials
  phases i := (calls i).begin

def setPhase (s : SharedRequests calls) (i : ℕ) (phase : RequestPhase (calls i).Result) :
    SharedRequests calls :=
  { s with phases := Function.update s.phases i phase }

@[simp] theorem setPhase_phases_self {s : SharedRequests calls} {i : ℕ}
    {phase : RequestPhase (calls i).Result} : (s.setPhase i phase).phases i = phase :=
  Function.update_self ..

theorem setPhase_phases_of_ne {s : SharedRequests calls} {i j : ℕ}
    {phase : RequestPhase (calls i).Result} (h : j ≠ i) :
    (s.setPhase i phase).phases j = s.phases j :=
  Function.update_of_ne h ..

/-- `ScopedCurl(contentType, creds)`. -/
def carryStep (s : SharedRequests calls) (i : ℕ) :
    Option (SharedRequests calls × List RequestEvent) :=
  match s.phases i with
  | .ready used => ((calls i).carry used s.credentials).map fun phase => (s.setPhase i phase, [])
  | _ => none

/-- `getUserUrl(creds.lock().credentials.caid)`. -/
def addressStep (s : SharedRequests calls) (i : ℕ) :
    Option (SharedRequests calls × List RequestEvent) :=
  match s.phases i with
  | .addressing used headers =>
      some (s.setPhase i (.asking used ⟨headers, some s.credentials.caid⟩), [])
  | _ => none

def askStep (env : Environment) (s : SharedRequests calls) (i : ℕ) (o : HttpOutcome) :
    Option (SharedRequests calls × List RequestEvent) :=
  match s.phases i with
  | .asking used carried =>
      ((calls i).answered env used o).map fun phase =>
        (s.setPhase i phase, [.asked i carried o])
  | _ => none

/-- `creds.lock().credentials.refreshToken` is copied. -/
def readStep (s : SharedRequests calls) (i : ℕ) :
    Option (SharedRequests calls × List RequestEvent) :=
  match s.phases i with
  | .refreshing used => some (s.setPhase i (.presenting used s.credentials.refreshToken), [])
  | _ => none

/-- `refreshAuth`. -/
def presentStep (env : Environment) (s : SharedRequests calls) (i : ℕ) (o : HttpOutcome) :
    Option (SharedRequests calls × List RequestEvent) :=
  match s.phases i with
  | .presenting used refreshToken =>
      some (s.setPhase i ((calls i).refreshed env used o), [.presented i refreshToken o])
  | _ => none

/-- `creds.lock().credentials = ...`. -/
def storeStep (s : SharedRequests calls) (i : ℕ) :
    Option (SharedRequests calls × List RequestEvent) :=
  match s.phases i with
  | .granted used credentials =>
      some ({ s.setPhase i ((calls i).resumed used) with credentials := credentials },
        [.stored i credentials])
  | _ => none

def step (env : Environment) (s : SharedRequests calls) :
    RequestAction → Option (SharedRequests calls × List RequestEvent)
  | .carry i => s.carryStep i
  | .address i => s.addressStep i
  | .ask i o => s.askStep env i o
  | .read i => s.readStep i
  | .present i o => s.presentStep env i o
  | .store i => s.storeStep i

end SharedRequests

/-- The calls of all threads as a machine; of the environment it uses the parser only. -/
def sharedMachine (env : Environment) (calls : ℕ → SharedFunction) :
    Machine (SharedRequests calls) RequestAction RequestEvent :=
  ⟨SharedRequests.step env⟩

/-- A run from credentials on which no call has worked yet. -/
def SharedRuns (env : Environment) (calls : ℕ → SharedFunction) (credentials : Credentials)
    (tr : List (SharedRequests calls × RequestAction)) (es : List RequestEvent)
    (s : SharedRequests calls) : Prop :=
  (sharedMachine env calls).Run (.start calls credentials) tr es s

/-! ## What a step can do -/

/-- **What a step can do.** -/
inductive SharedMoves (env : Environment) {calls : ℕ → SharedFunction} (s : SharedRequests calls) :
    RequestAction → SharedRequests calls → List RequestEvent → Prop
  | carry (i used : ℕ) (phase : RequestPhase (calls i).Result)
      (hphase : s.phases i = .ready used)
      (hcarry : (calls i).carry used s.credentials = some phase) :
      SharedMoves env s (.carry i) (s.setPhase i phase) []
  | address (i used : ℕ) (headers : List String) (hphase : s.phases i = .addressing used headers) :
      SharedMoves env s (.address i)
        (s.setPhase i (.asking used ⟨headers, some s.credentials.caid⟩)) []
  | ask (i used : ℕ) (carried : Carried) (o : HttpOutcome) (phase : RequestPhase (calls i).Result)
      (hphase : s.phases i = .asking used carried)
      (hanswered : (calls i).answered env used o = some phase) :
      SharedMoves env s (.ask i o) (s.setPhase i phase) [.asked i carried o]
  | read (i used : ℕ) (hphase : s.phases i = .refreshing used) :
      SharedMoves env s (.read i) (s.setPhase i (.presenting used s.credentials.refreshToken)) []
  | present (i used : ℕ) (refreshToken : String) (o : HttpOutcome)
      (hphase : s.phases i = .presenting used refreshToken) :
      SharedMoves env s (.present i o) (s.setPhase i ((calls i).refreshed env used o))
        [.presented i refreshToken o]
  | store (i used : ℕ) (c : Credentials) (hphase : s.phases i = .granted used c) :
      SharedMoves env s (.store i)
        { s.setPhase i ((calls i).resumed used) with credentials := c } [.stored i c]

section

variable {env : Environment} {calls : ℕ → SharedFunction} {s s' : SharedRequests calls}
  {a : RequestAction} {out : List RequestEvent}

/-- What holds of where a step goes that is mapped. -/
theorem holds_of_map {α : Type} {P : SharedRequests calls → List RequestEvent → Prop}
    {x : Option α} {g : α → SharedRequests calls × List RequestEvent}
    (h : x.map g = some (s', out)) (hg : ∀ v, x = some v → P (g v).1 (g v).2) : P s' out := by
  cases x with
  | none => cases h
  | some v => exact holds_of_some h (hg v rfl)

/-- **Inversion of a step.** -/
theorem sharedMoves_of_step (h : (sharedMachine env calls).step s a = some (s', out)) :
    SharedMoves env s a s' out := by
  have hstep : s.step env a = some (s', out) := h
  cases a with
  | carry i =>
      rw [SharedRequests.step, SharedRequests.carryStep.eq_def] at hstep
      split at hstep
      · rename_i used hphase
        exact holds_of_map hstep fun phase hcarry => .carry i used phase hphase hcarry
      · cases hstep
  | address i =>
      rw [SharedRequests.step, SharedRequests.addressStep.eq_def] at hstep
      split at hstep
      · rename_i used headers hphase
        exact holds_of_some hstep (.address i used headers hphase)
      · cases hstep
  | ask i o =>
      rw [SharedRequests.step, SharedRequests.askStep.eq_def] at hstep
      split at hstep
      · rename_i used carried hphase
        exact holds_of_map hstep fun phase hanswered =>
          .ask i used carried o phase hphase hanswered
      · cases hstep
  | read i =>
      rw [SharedRequests.step, SharedRequests.readStep.eq_def] at hstep
      split at hstep
      · rename_i used hphase
        exact holds_of_some hstep (.read i used hphase)
      · cases hstep
  | present i o =>
      rw [SharedRequests.step, SharedRequests.presentStep.eq_def] at hstep
      split at hstep
      · rename_i used refreshToken hphase
        exact holds_of_some hstep (.present i used refreshToken o hphase)
      · cases hstep
  | store i =>
      rw [SharedRequests.step, SharedRequests.storeStep.eq_def] at hstep
      split at hstep
      · rename_i used c hphase
        exact holds_of_some hstep (.store i used c hphase)
      · cases hstep

/-- And back: the moves are steps. -/
theorem SharedMoves.step (h : SharedMoves env s a s' out) :
    (sharedMachine env calls).step s a = some (s', out) := by
  show s.step env a = some (s', out)
  cases h with
  | carry i used phase hphase hcarry =>
      simp [SharedRequests.step, SharedRequests.carryStep, hphase, hcarry]
  | address i used headers hphase =>
      simp [SharedRequests.step, SharedRequests.addressStep, hphase]
  | ask i used carried o phase hphase hanswered =>
      simp [SharedRequests.step, SharedRequests.askStep, hphase, hanswered]
  | read i used hphase => simp [SharedRequests.step, SharedRequests.readStep, hphase]
  | present i used refreshToken o hphase =>
      simp [SharedRequests.step, SharedRequests.presentStep, hphase]
  | store i used c hphase => simp [SharedRequests.step, SharedRequests.storeStep, hphase]

end

/-! ## What a request carries -/

namespace RequestEvent

/-- The call that is seen. -/
def call : RequestEvent → ℕ
  | asked i _ _ | presented i _ _ | stored i _ => i

/-- What was stored, if anything. -/
def credentialsStored : RequestEvent → Option Credentials
  | stored _ credentials => some credentials
  | _ => none

end RequestEvent

/-- The credentials that were stored last. -/
def lastStored (c₀ : Credentials) (es : List RequestEvent) : Credentials :=
  (es.filterMap (·.credentialsStored)).getLast?.getD c₀

/-- At some moment since call `i` was last seen, the stored credentials were such. -/
def SinceSeen (c₀ : Credentials) (i : ℕ) (P : Credentials → Prop) (es : List RequestEvent) :
    Prop :=
  ∃ before since, es = before ++ since ∧ (∀ e ∈ since, e.call ≠ i) ∧ P (lastStored c₀ before)

/-- The last that was seen of call `i` is a refresh that was granted `c`. -/
def GrantedLast (env : Environment) (i : ℕ) (c : Credentials) (es : List RequestEvent) : Prop :=
  ∃ before refreshToken o since, es = before ++ .presented i refreshToken o :: since ∧
    (∀ e ∈ since, e.call ≠ i) ∧ refreshAnswer env o = .ok (some c)

/-- What may be seen after `before`: an exchange carries what was stored at one moment since
its call was last seen, and a call that has been granted credentials stores them next. -/
def RequestEvent.InOrder (env : Environment) (c₀ : Credentials) (before : List RequestEvent) :
    RequestEvent → Prop
  | .asked i carried _ =>
      (∀ c, ¬ GrantedLast env i c before) ∧
        SinceSeen c₀ i (fun c => carried.headers = authenticatedHeaders c) before ∧
        ∀ caid, carried.caid = some caid → SinceSeen c₀ i (fun c => c.caid = caid) before
  | .presented i refreshToken _ =>
      (∀ c, ¬ GrantedLast env i c before) ∧
        SinceSeen c₀ i (fun c => c.refreshToken = refreshToken) before
  | .stored i c => GrantedLast env i c before

/-- **The order of what is seen**, at every moment. -/
def CredentialsInOrder (env : Environment) (c₀ : Credentials) (es : List RequestEvent) : Prop :=
  ∀ before e after, es = before ++ e :: after → e.InOrder env c₀ before

/-- What a call has in hand. -/
def RequestPhase.Holds {T : Type} (env : Environment) (c₀ : Credentials) (i : ℕ)
    (es : List RequestEvent) : RequestPhase T → Prop
  | .addressing _ headers => SinceSeen c₀ i (fun c => headers = authenticatedHeaders c) es
  | .asking _ carried =>
      SinceSeen c₀ i (fun c => carried.headers = authenticatedHeaders c) es ∧
        ∀ caid, carried.caid = some caid → SinceSeen c₀ i (fun c => c.caid = caid) es
  | .presenting _ refreshToken => SinceSeen c₀ i (fun c => c.refreshToken = refreshToken) es
  | .granted _ c => GrantedLast env i c es
  | _ => True

/-- The stored credentials, what the calls have in hand, and what has been seen. -/
structure OrderInv (env : Environment) (c₀ : Credentials) {calls : ℕ → SharedFunction}
    (es : List RequestEvent) (s : SharedRequests calls) : Prop where
  stored : s.credentials = lastStored c₀ es
  holds : ∀ i, (s.phases i).Holds env c₀ i es
  grants : ∀ i c, GrantedLast env i c es → ∃ used, s.phases i = .granted used c
  inOrder : CredentialsInOrder env c₀ es

section

variable {env : Environment} {calls : ℕ → SharedFunction} {s s' : SharedRequests calls}
  {a : RequestAction} {es out : List RequestEvent} {e : RequestEvent} {i : ℕ}
  {c₀ c : Credentials} {P : Credentials → Prop}

/-- The order up to a new event. -/
theorem credentialsInOrder_snoc :
    CredentialsInOrder env c₀ (es ++ [e]) ↔ CredentialsInOrder env c₀ es ∧ e.InOrder env c₀ es := by
  constructor
  · intro h
    refine ⟨?_, h es e [] rfl⟩
    rintro before e' after rfl
    apply h before e' (after ++ [e])
    rw [List.append_assoc, List.cons_append]
  · rintro ⟨hes, he⟩ before e' after heq
    rcases List.append_eq_append_iff.mp heq with ⟨m, rfl, hm⟩ | ⟨m, rfl, hm⟩
    · -- the event is the new one
      rcases m with _ | ⟨e'', m⟩
      · rw [List.nil_append, List.cons.injEq] at hm
        rw [List.append_nil, ← hm.1]
        exact he
      · simp at hm
    · rcases m with _ | ⟨e'', m⟩
      · rw [List.nil_append, List.cons.injEq] at hm
        rw [hm.1]
        rw [List.append_nil] at he
        exact he
      · rw [List.cons_append, List.cons.injEq] at hm
        rw [hm.1]
        exact hes before e'' m rfl

/-- What is stored now was stored since, -/
theorem sinceSeen_now (h : P (lastStored c₀ es)) : SinceSeen c₀ i P es :=
  ⟨es, [], (List.append_nil es).symm, fun _ he => absurd he (List.not_mem_nil), h⟩

/-- and stays so until the call is seen again. -/
theorem SinceSeen.snoc (h : SinceSeen c₀ i P es) (he : e.call ≠ i) :
    SinceSeen c₀ i P (es ++ [e]) := by
  obtain ⟨before, since, rfl, hsince, hP⟩ := h
  refine ⟨before, since ++ [e], List.append_assoc .., ?_, hP⟩
  intro e' he'
  rcases List.mem_append.mp he' with hmem | hmem
  · exact hsince e' hmem
  · rwa [List.mem_singleton.mp hmem]

/-- What is seen last of call `i` after another event. -/
theorem grantedLast_snoc :
    GrantedLast env i c (es ++ [e]) ↔ (e.call ≠ i ∧ GrantedLast env i c es) ∨
      ∃ refreshToken o, e = .presented i refreshToken o ∧
        refreshAnswer env o = .ok (some c) := by
  constructor
  · rintro ⟨before, refreshToken, o, since, heq, hsince, hanswer⟩
    rcases List.eq_nil_or_concat' since with rfl | ⟨since, e', rfl⟩
    · right
      obtain ⟨-, heq⟩ := List.append_inj' heq rfl
      exact ⟨refreshToken, o, (List.cons.inj heq).1, hanswer⟩
    · left
      rw [← List.cons_append, ← List.append_assoc] at heq
      obtain ⟨hes, hlast⟩ := List.append_inj' heq rfl
      obtain rfl := (List.cons.inj hlast).1
      subst hes
      refine ⟨hsince e (by simp), before, refreshToken, o, since, rfl, ?_, hanswer⟩
      intro e' he'
      exact hsince e' (by simp [he'])
  · rintro (⟨he, before, refreshToken, o, since, rfl, hsince, hanswer⟩ |
      ⟨refreshToken, o, rfl, hanswer⟩)
    · refine ⟨before, refreshToken, o, since ++ [e], by simp, ?_, hanswer⟩
      intro e' he'
      rcases List.mem_append.mp he' with hmem | hmem
      · exact hsince e' hmem
      · rwa [List.mem_singleton.mp hmem]
    · exact ⟨es, refreshToken, o, [], rfl, fun _ he => absurd he (List.not_mem_nil), hanswer⟩

/-- What a call has in hand, it keeps while others are seen. -/
theorem RequestPhase.Holds.snoc {T : Type} {phase : RequestPhase T}
    (h : phase.Holds env c₀ i es) (he : e.call ≠ i) : phase.Holds env c₀ i (es ++ [e]) := by
  cases phase with
  | addressing used headers =>
      have hheaders : SinceSeen c₀ i (fun c => headers = authenticatedHeaders c) es := h
      exact hheaders.snoc he
  | asking used carried => exact ⟨h.1.snoc he, fun caid hcaid => (h.2 caid hcaid).snoc he⟩
  | presenting used refreshToken =>
      have htoken : SinceSeen c₀ i (fun c => c.refreshToken = refreshToken) es := h
      exact htoken.snoc he
  | granted used c => exact grantedLast_snoc.mpr (.inl ⟨he, h⟩)
  | _ => trivial

/-- The headers are made of the stored credentials. -/
theorem SharedFunction.holds_carry {f : SharedFunction} {used : ℕ}
    {phase : RequestPhase f.Result} (h : f.carry used c = some phase)
    (hc : c = lastStored c₀ es) : phase.Holds env c₀ i es := by
  have hheaders : SinceSeen c₀ i (fun c' => authenticatedHeaders c = authenticatedHeaders c') es :=
    sinceSeen_now (hc ▸ rfl)
  cases f with
  | refreshCredentials => cases h
  | request f =>
      rw [SharedFunction.carry] at h
      cases hdump : dump f.texts with
      | error fault =>
          simp only [hdump, Option.some.injEq] at h
          rw [← h]
          trivial
      | ok u =>
          simp only [hdump, Option.some.injEq] at h
          rw [← h]
          cases f with
          | getUserInfo => exact hheaders
          | _ => exact ⟨hheaders, fun caid hcaid => absurd hcaid (by simp)⟩

/-- An exchange leaves nothing in hand. -/
theorem SharedFunction.holds_answered {f : SharedFunction} {used : ℕ} {o : HttpOutcome}
    {phase : RequestPhase f.Result} (h : f.answered env used o = some phase) :
    phase.Holds env c₀ i es := by
  cases f with
  | refreshCredentials => cases h
  | request f =>
      rw [SharedFunction.answered] at h
      split at h
      · rw [← Option.some.inj h]
        trivial
      · split at h
        · rw [← Option.some.inj h]
          trivial
        · split at h
          · rw [← Option.some.inj h]
            trivial
          · rw [← Option.some.inj h]
            trivial

/-- The credentials have been stored. -/
theorem SharedFunction.holds_resumed {f : SharedFunction} {used : ℕ} :
    (f.resumed used).Holds env c₀ i es := by
  cases f with
  | request f => trivial
  | refreshCredentials => trivial

/-- The credentials that were stored last change when some are stored. -/
theorem lastStored_snoc : lastStored c₀ (es ++ [e]) =
    e.credentialsStored.getD (lastStored c₀ es) := by
  rw [lastStored, lastStored, List.filterMap_append]
  cases he : e.credentialsStored with
  | none => simp [he]
  | some c => simp [he]

/-- A step of call `i` of which nothing is seen. -/
theorem OrderInv.quiet (h : OrderInv env c₀ es s) {phase : RequestPhase (calls i).Result}
    (hold : ∀ used c, s.phases i ≠ .granted used c) (hphase : phase.Holds env c₀ i es) :
    OrderInv env c₀ es (s.setPhase i phase) where
  stored := h.stored
  holds j := by
    by_cases hj : j = i
    · subst hj
      rw [SharedRequests.setPhase_phases_self]
      exact hphase
    · rw [SharedRequests.setPhase_phases_of_ne hj]
      exact h.holds j
  grants j c hgranted := by
    obtain ⟨used, hused⟩ := h.grants j c hgranted
    have hj : j ≠ i := by
      rintro rfl
      exact hold used c hused
    rw [SharedRequests.setPhase_phases_of_ne hj]
    exact ⟨used, hused⟩
  inOrder := h.inOrder

/-- A step of call `i` of which an event is seen. -/
theorem OrderInv.seen (h : OrderInv env c₀ es s) {phase : RequestPhase (calls i).Result}
    (hi : e.call = i) (hevent : e.InOrder env c₀ es) (hphase : phase.Holds env c₀ i (es ++ [e]))
    (hgrants : ∀ refreshToken o c, e = .presented i refreshToken o →
      refreshAnswer env o = .ok (some c) → ∃ used, phase = .granted used c) :
    OrderInv env c₀ (es ++ [e])
      { s.setPhase i phase with
        credentials := e.credentialsStored.getD s.credentials } where
  stored := by
    rw [lastStored_snoc, ← h.stored]
  holds j := by
    show ((s.setPhase i phase).phases j).Holds env c₀ j (es ++ [e])
    by_cases hj : j = i
    · subst hj
      rw [SharedRequests.setPhase_phases_self]
      exact hphase
    · rw [SharedRequests.setPhase_phases_of_ne hj]
      apply (h.holds j).snoc
      rw [hi]
      exact Ne.symm hj
  grants j c hgranted := by
    show ∃ used, (s.setPhase i phase).phases j = .granted used c
    rcases grantedLast_snoc.mp hgranted with ⟨hother, hbefore⟩ | ⟨refreshToken, o, rfl, hanswer⟩
    · rw [hi] at hother
      rw [SharedRequests.setPhase_phases_of_ne (Ne.symm hother)]
      exact h.grants j c hbefore
    · obtain rfl : j = i := hi
      rw [SharedRequests.setPhase_phases_self]
      exact hgrants refreshToken o c rfl hanswer
  inOrder := credentialsInOrder_snoc.mpr ⟨h.inOrder, hevent⟩

/-- A call that has not been granted anything has not been seen to be. -/
theorem OrderInv.not_granted (h : OrderInv env c₀ es s)
    (hold : ∀ used c, s.phases i ≠ .granted used c) (c : Credentials) :
    ¬ GrantedLast env i c es := by
  intro hgranted
  obtain ⟨used, hused⟩ := h.grants i c hgranted
  exact hold used c hused

/-- **Step lemma.** -/
theorem OrderInv.moves (h : OrderInv env c₀ es s) (hmoves : SharedMoves env s a s' out) :
    OrderInv env c₀ (es ++ out) s' := by
  cases hmoves with
  | carry i used phase hphase hcarry =>
      rw [List.append_nil]
      apply h.quiet
      · simp [hphase]
      · exact SharedFunction.holds_carry hcarry h.stored
  | address i used headers hphase =>
      have hheaders := h.holds i
      rw [hphase] at hheaders
      have hcaid : SinceSeen c₀ i (fun c => c.caid = s.credentials.caid) es :=
        sinceSeen_now (by rw [h.stored])
      rw [List.append_nil]
      apply h.quiet
      · simp [hphase]
      · refine ⟨hheaders, ?_⟩
        rintro caid ⟨⟩
        exact hcaid
  | ask i used carried o phase hphase hanswered =>
      have hcarried := h.holds i
      rw [hphase] at hcarried
      have hevent : (RequestEvent.asked i carried o).InOrder env c₀ es :=
        ⟨h.not_granted (by simp [hphase]), hcarried⟩
      apply h.seen rfl hevent
      · exact SharedFunction.holds_answered hanswered
      · rintro refreshToken o' c ⟨⟩
  | read i used hphase =>
      have htoken : SinceSeen c₀ i (fun c => c.refreshToken = s.credentials.refreshToken) es :=
        sinceSeen_now (by rw [h.stored])
      rw [List.append_nil]
      apply h.quiet
      · simp [hphase]
      · exact htoken
  | present i used refreshToken o hphase =>
      have htoken := h.holds i
      rw [hphase] at htoken
      have hevent : (RequestEvent.presented i refreshToken o).InOrder env c₀ es :=
        ⟨h.not_granted (by simp [hphase]), htoken⟩
      apply h.seen rfl hevent
      · rw [SharedFunction.refreshed]
        cases hanswer : refreshAnswer env o with
        | error fault => trivial
        | ok creds =>
            cases creds with
            | none => trivial
            | some c => exact grantedLast_snoc.mpr (.inr ⟨refreshToken, o, rfl, hanswer⟩)
      · rintro refreshToken' o' c ⟨⟩ hanswer
        refine ⟨used, ?_⟩
        rw [SharedFunction.refreshed.eq_def, hanswer]
        rfl
  | store i used c hphase =>
      have hgranted := h.holds i
      rw [hphase] at hgranted
      have hevent : (RequestEvent.stored i c).InOrder env c₀ es := hgranted
      apply h.seen rfl hevent
      · exact SharedFunction.holds_resumed
      · rintro refreshToken o c' ⟨⟩

end

end Caff
