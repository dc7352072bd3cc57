/-
# HTTP exchanges

The part of `src/RestApi.cpp` that the request functions share.  A request
function is a computation of type `Http σ α`: it makes HTTP exchanges, reads and
writes a state of type `σ`, and returns a value of type `α` or stops.  A C++
exception does not undo what was written before it, so the state is there after
a stop as well.

The outside world is an `Environment`: for each endpoint the infinite sequence
of its outcomes (transport result, status code, body bytes), and what the JSON
parser makes of a body.  The exchanges of a computation take the outcomes of
their endpoint in order.
-/
import Caffeine.Library.Json
import Caffeine.Types

namespace Caff

/-! ## The outside world -/

/-- `CURLcode`, as far as the code tells its values apart. -/
inductive CurlCode
  | ok
  | couldntResolveHost
  | couldntConnect
  | other (code : ℕ)
  deriving DecidableEq, Repr

/-- What `curl_easy_perform` leaves behind. -/
structure HttpOutcome where
  curlResult : CurlCode
  responseCode : ℤ
  body : Bytes
  deriving DecidableEq, Repr

/-- The URLs the modelled requests go to. -/
inductive Endpoint
  | versionCheck
  | signIn
  | refreshToken
  | user
  | games
  | heartbeat
  | encoderInfo
  | trickle
  | screenshot
  | graphql
  deriving DecidableEq, Repr

/-- The process-wide client information, the server and the JSON parser
(`none`: `Json::parse` throws). -/
structure Environment where
  clientType : Bytes
  clientVersion : Bytes
  outcomes : Endpoint → ℕ → HttpOutcome
  parse : Bytes → Option Json

/-- The document in the body of a response. -/
def Environment.document (env : Environment) (o : HttpOutcome) : Option Json := env.parse o.body

/-! ## Computations that make exchanges -/

/-- The number of exchanges made with each endpoint, and the state. -/
structure Session (σ : Type) where
  asked : Endpoint → ℕ
  state : σ

/-- No exchange made yet. -/
def Session.start {σ : Type} (state : σ) : Session σ := ⟨fun _ => 0, state⟩

/-- One more exchange with `e`. -/
def Session.ask {σ : Type} (s : Session σ) (e : Endpoint) : Session σ :=
  { s with asked := Function.update s.asked e (s.asked e + 1) }

/-- Why a computation did not return: a fault in reading JSON, or a recursion
deeper than the model followed. -/
inductive Stop
  | fault (f : Json.Fault)
  | outOfDepth
  deriving DecidableEq, Repr

/-- A computation that makes HTTP exchanges. -/
def Http (σ α : Type) : Type := Environment → Session σ → Except Stop α × Session σ

namespace Http

variable {σ α β : Type}

instance : Monad (Http σ) where
  pure v := fun _ s => (.ok v, s)
  bind x f := fun env s =>
    match x env s with
    | (.ok v, s') => f v env s'
    | (.error e, s') => (.error e, s')

/-- Perform a request and take the next outcome of its endpoint. -/
def exchange (e : Endpoint) : Http σ HttpOutcome := fun env s =>
  (.ok (env.outcomes e (s.asked e)), s.ask e)

/-- `Json::parse(curl.getResponse())` under its `catch (...)`. -/
def parseBody (o : HttpOutcome) : Http σ (Option Json) := fun env s =>
  (.ok (env.document o), s)

/-- An access to a JSON document outside any `try`. -/
def lift (x : Json.Access α) : Http σ α := fun _ s =>
  match x with
  | .ok v => (.ok v, s)
  | .error f => (.error (.fault f), s)

/-- The state of the session. -/
def get : Http σ σ := fun _ s => (.ok s.state, s)

/-- Change the state. -/
def modify (f : σ → σ) : Http σ Unit := fun _ s => (.ok (), { s with state := f s.state })

/-- A recursion that does not end at the given depth. -/
def outOfDepth : Http σ α := fun _ s => (.error .outOfDepth, s)

/-- The computation returns a value. -/
def Returns (x : Http σ α) (env : Environment) (s : Session σ) : Prop := ∃ v, (x env s).1 = .ok v

@[simp] theorem pure_apply (v : α) (env : Environment) (s : Session σ) :
    (pure v : Http σ α) env s = (.ok v, s) := rfl

/-- A sequence runs its parts one after the other. -/
theorem bind_apply (x : Http σ α) (f : α → Http σ β) (env : Environment) (s : Session σ) :
    (x >>= f) env s =
      match x env s with
      | (.ok v, s') => f v env s'
      | (.error e, s') => (.error e, s') := rfl

/-- The rest of a sequence runs after its first part. -/
theorem bind_apply_of_ok {x : Http σ α} {f : α → Http σ β} {env : Environment} {s s' : Session σ}
    {v : α} (h : x env s = (.ok v, s')) : (x >>= f) env s = f v env s' := by
  rw [bind_apply, h]

/-- A sequence stops where its first part does. -/
theorem bind_apply_of_error {x : Http σ α} {f : α → Http σ β} {env : Environment}
    {s s' : Session σ} {e : Stop} (h : x env s = (.error e, s')) :
    (x >>= f) env s = (.error e, s') := by
  rw [bind_apply, h]

/-- The rest of a sequence runs on the outcome of the exchange, -/
@[simp] theorem exchange_bind_apply (e : Endpoint) (f : HttpOutcome → Http σ α)
    (env : Environment) (s : Session σ) :
    (exchange e >>= f) env s = f (env.outcomes e (s.asked e)) env (s.ask e) := rfl

/-- and on what the body parses to. -/
@[simp] theorem parseBody_bind_apply (o : HttpOutcome) (f : Option Json → Http σ α)
    (env : Environment) (s : Session σ) :
    (parseBody o >>= f) env s = f (env.document o) env s := rfl

theorem lift_ok (v : α) (env : Environment) (s : Session σ) :
    (lift (.ok v) : Http σ α) env s = (.ok v, s) := rfl

theorem lift_error (f : Json.Fault) (env : Environment) (s : Session σ) :
    (lift (.error f) : Http σ α) env s = (.error (.fault f), s) := rfl

theorem get_bind_apply (f : σ → Http σ α) (env : Environment) (s : Session σ) :
    (get >>= f) env s = f s.state env s := rfl

theorem modify_bind_apply (g : σ → σ) (f : Unit → Http σ α) (env : Environment) (s : Session σ) :
    (modify g >>= f) env s = f () env { s with state := g s.state } := rfl

@[simp] theorem returns_pure (v : α) (env : Environment) (s : Session σ) :
    (pure v : Http σ α).Returns env s := ⟨v, rfl⟩

/-- Reworking the value of a computation does not matter to whether it returns. -/
theorem returns_bind_pure_iff {x : Http σ α} {f : α → β} {env : Environment} {s : Session σ} :
    (x >>= fun v => pure (f v)).Returns env s ↔ x.Returns env s := by
  rcases h : x env s with ⟨e | v, s'⟩
  · simp [Returns, bind_apply_of_error h, h]
  · simp [Returns, bind_apply_of_ok h, h]

/-- An access outside any `try` returns exactly if it goes through. -/
@[simp] theorem returns_lift_iff {x : Json.Access α} {env : Environment} {s : Session σ} :
    (lift x : Http σ α).Returns env s ↔ x.Succeeds := by
  rcases x with f | v <;> simp [Returns, lift]

/-! ## Triples -/

/-- From a session satisfying `P`, the computation ends in `Q` with the value it
returns, or in `R` where it stops. -/
def Triple (env : Environment) (P : Session σ → Prop) (x : Http σ α)
    (Q : α → Session σ → Prop) (R : Session σ → Prop) : Prop :=
  ∀ s, P s → (∀ v s', x env s = (.ok v, s') → Q v s') ∧ ∀ e s', x env s = (.error e, s') → R s'

section Triple

variable {env : Environment} {P : Session σ → Prop} {R : Session σ → Prop}

/-- **Rules.**  A value ends where it begins; -/
theorem Triple.pure {Q : α → Session σ → Prop} {v : α} (h : ∀ s, P s → Q v s) :
    Triple env P (Pure.pure v : Http σ α) Q R := by
  intro s hs
  constructor
  · intro w s' hw
    rw [pure_apply, Prod.mk.injEq, Except.ok.injEq] at hw
    rw [← hw.1, ← hw.2]
    exact h s hs
  · intro e s' he
    rw [pure_apply, Prod.mk.injEq] at he
    exact absurd he.1 (by simp)

/-- a sequence goes from the end of its first part; -/
theorem Triple.bind {Q : α → Session σ → Prop} {Q' : β → Session σ → Prop} {x : Http σ α}
    {f : α → Http σ β} (hx : Triple env P x Q R) (hf : ∀ v, Triple env (Q v) (f v) Q' R) :
    Triple env P (x >>= f) Q' R := by
  intro s hs
  rcases h : x env s with ⟨e | v, s'⟩
  · have hR : R s' := (hx s hs).2 e s' h
    rw [bind_apply_of_error h]
    constructor
    · intro w t hw
      exact absurd (Prod.mk.inj hw).1 (by simp)
    · intro e' t ht
      rwa [← (Prod.mk.inj ht).2]
  · rw [bind_apply_of_ok h]
    exact hf v s' ((hx s hs).1 v s' h)

/-- both branches have to end well; -/
theorem Triple.ite {Q : α → Session σ → Prop} {c : Prop} [Decidable c] {x y : Http σ α}
    (hx : c → Triple env P x Q R) (hy : ¬ c → Triple env P y Q R) :
    Triple env P (if c then x else y) Q R := by
  by_cases hc : c
  · rw [if_pos hc]
    exact hx hc
  · rw [if_neg hc]
    exact hy hc

/-- and a triple can be weakened. -/
theorem Triple.weaken {P' : Session σ → Prop} {Q Q' : α → Session σ → Prop} {x : Http σ α}
    (h : Triple env P x Q R) (hP : ∀ s, P' s → P s) (hQ : ∀ v s, Q v s → Q' v s) :
    Triple env P' x Q' R := by
  intro s hs
  exact ⟨fun v s' hv => hQ v s' ((h s (hP s hs)).1 v s' hv), (h s (hP s hs)).2⟩

/-- A condition on the state holds through every exchange. -/
theorem Triple.exchange {I : σ → Prop} {e : Endpoint} :
    Triple env (fun s => I s.state) (Http.exchange e)
      (fun o s => (∃ n, o = env.outcomes e n) ∧ I s.state) (fun s => I s.state) := by
  intro s hs
  constructor
  · intro o s' h
    rw [Http.exchange, Prod.mk.injEq, Except.ok.injEq] at h
    rw [← h.1, ← h.2]
    exact ⟨⟨_, rfl⟩, hs⟩
  · intro e' s' h
    exact absurd (Prod.mk.inj h).1 (by simp)

/-- The state is read as it is, -/
theorem Triple.get : Triple env P (Http.get : Http σ σ) (fun v s => v = s.state ∧ P s) R := by
  intro s hs
  constructor
  · intro v s' h
    rw [Http.get, Prod.mk.injEq, Except.ok.injEq] at h
    rw [← h.1, ← h.2]
    exact ⟨rfl, hs⟩
  · intro e s' h
    exact absurd (Prod.mk.inj h).1 (by simp)

/-- and changed as it says. -/
theorem Triple.modify {g : σ → σ} {Q : Unit → Session σ → Prop}
    (h : ∀ s, P s → Q () { s with state := g s.state }) : Triple env P (Http.modify g) Q R := by
  intro s hs
  constructor
  · intro v s' h'
    rw [Http.modify, Prod.mk.injEq] at h'
    rw [← h'.2]
    exact h s hs
  · intro e s' h'
    exact absurd (Prod.mk.inj h').1 (by simp)

/-- An access leaves the session. -/
theorem Triple.lift {x : Json.Access α} :
    Triple env P (Http.lift x) (fun v s => x = .ok v ∧ P s) P := by
  intro s hs
  rcases x with f | v
  · constructor
    · intro w s' h
      exact absurd (Prod.mk.inj h).1 (by simp)
    · intro e s' h
      rwa [← (Prod.mk.inj h).2]
  · constructor
    · intro w s' h
      rw [← Except.ok.inj (Prod.mk.inj h).1, ← (Prod.mk.inj h).2]
      exact ⟨rfl, hs⟩
    · intro e s' h
      exact absurd (Prod.mk.inj h).1 (by simp)

end Triple

/-! ## Footprints -/

/-- The computation makes no exchange with `e`. -/
def Spares (e : Endpoint) (x : Http σ α) : Prop := ∀ env s, (x env s).2.asked e = s.asked e

section Spares

variable {e : Endpoint}

/-- A value makes no exchange, -/
theorem spares_pure (v : α) : Spares e (pure v : Http σ α) := fun _ _ => rfl

/-- a sequence none if its parts make none, -/
theorem spares_bind {x : Http σ α} {f : α → Http σ β} (hx : Spares e x)
    (hf : ∀ v, Spares e (f v)) : Spares e (x >>= f) := by
  intro env s
  have h := hx env s
  rcases hr : x env s with ⟨e' | v, s'⟩
  · rw [hr] at h
    rwa [bind_apply_of_error hr]
  · rw [hr] at h
    rw [bind_apply_of_ok hr, hf v env s']
    exact h

/-- nor does either branch, -/
theorem spares_ite {c : Prop} [Decidable c] {x y : Http σ α} (hx : Spares e x)
    (hy : Spares e y) : Spares e (if c then x else y) := by
  by_cases hc : c
  · rwa [if_pos hc]
  · rwa [if_neg hc]

/-- an exchange only its own, -/
theorem spares_exchange {e' : Endpoint} (h : e ≠ e') : Spares e (exchange e' : Http σ _) :=
  fun _ _ => Function.update_of_ne h _ _

/-- and an access none. -/
theorem spares_lift (x : Json.Access α) : Spares e (lift x : Http σ α) := by
  intro env s
  rcases x with f | v <;> rfl

theorem spares_get : Spares e (get : Http σ σ) := fun _ _ => rfl

theorem spares_modify (g : σ → σ) : Spares e (modify g) := fun _ _ => rfl

theorem spares_parseBody (o : HttpOutcome) : Spares e (parseBody o : Http σ _) := fun _ _ => rfl

theorem spares_outOfDepth : Spares e (outOfDepth : Http σ α) := fun _ _ => rfl

end Spares

/-! ## Undefined accesses -/

/-- The computation comes to no undefined access. -/
def Defined (x : Http σ α) : Prop := ∀ env s, (x env s).1 ≠ .error (.fault .undefined)

section Defined

/-- A value is defined, -/
theorem defined_pure (v : α) : Defined (pure v : Http σ α) := by
  intro env s h
  cases h

/-- a sequence if its parts are, -/
theorem defined_bind {x : Http σ α} {f : α → Http σ β} (hx : Defined x)
    (hf : ∀ v, Defined (f v)) : Defined (x >>= f) := by
  intro env s
  have h := hx env s
  rcases hr : x env s with ⟨e | v, s'⟩
  · rw [hr] at h
    rw [bind_apply_of_error hr]
    intro he
    exact h (congrArg Except.error (Except.error.inj he))
  · rw [bind_apply_of_ok hr]
    exact hf v env s'

/-- as both branches have to be, -/
theorem defined_ite {c : Prop} [Decidable c] {x y : Http σ α} (hx : Defined x)
    (hy : Defined y) : Defined (if c then x else y) := by
  by_cases hc : c
  · rwa [if_pos hc]
  · rwa [if_neg hc]

theorem defined_exchange (e : Endpoint) : Defined (exchange e : Http σ _) := by
  intro env s h
  cases h

theorem defined_parseBody (o : HttpOutcome) : Defined (parseBody o : Http σ _) := by
  intro env s h
  cases h

theorem defined_get : Defined (get : Http σ σ) := by
  intro env s h
  cases h

theorem defined_modify (g : σ → σ) : Defined (modify g) := by
  intro env s h
  cases h

theorem defined_outOfDepth : Defined (outOfDepth : Http σ α) := by
  intro env s h
  cases h

/-- and an access if it is. -/
theorem defined_lift {x : Json.Access α} (hx : x.Defined) : Defined (lift x : Http σ α) := by
  intro env s h
  rcases x with f | v
  · exact hx (congrArg Except.error (Stop.fault.inj (Except.error.inj h)))
  · cases h

end Defined

end Http

/-! ## Retries -/

/-- `Retryable<T>::Desire`. -/
inductive Desire
  | retry
  | complete
  deriving DecidableEq, Repr

/-- `Retryable<T>`. -/
structure Retryable (T : Type) where
  desire : Desire
  result : T
  deriving DecidableEq, Repr

/-- `retry(result)`. -/
def retry {T : Type} (result : T) : Retryable T := ⟨.retry, result⟩

/-- The converting constructor: no retry. -/
def complete {T : Type} (result : T) : Retryable T := ⟨.complete, result⟩

/-- No other try is asked for. -/
def isComplete {T : Type} (retryable : Retryable T) : Bool := retryable.desire = .complete

/-- How often a request is tried. -/
def numRetries : ℕ := 3

/-- The loop of `retryRequest` for the remaining tries, without its sleeps. -/
def retryLoop {σ T : Type} (requestFunction : Http σ (Retryable T)) :
    ℕ → Retryable T → Http σ (Retryable T)
  | 0, retryable => pure retryable
  | tries + 1, _ => do
      let retryable ← requestFunction
      if isComplete retryable then pure retryable
      else retryLoop requestFunction tries retryable

/-- `retryRequest`; `empty` is the value-initialised result. -/
def retryRequest {σ T : Type} (empty : T) (requestFunction : Http σ (Retryable T)) : Http σ T := do
  let retryable ← retryLoop requestFunction numRetries (retry empty)
  pure retryable.result

/-- **A request that never asks for a retry is made once.** -/
theorem retryRequest_apply_of_complete {σ T : Type} {empty v : T}
    {requestFunction : Http σ (Retryable T)} {env : Environment} {s s' : Session σ}
    (h : requestFunction env s = (.ok (complete v), s')) :
    retryRequest empty requestFunction env s = (.ok v, s') := by
  have hloop : retryLoop requestFunction numRetries (retry empty) env s
      = (.ok (complete v), s') := by
    rw [numRetries, retryLoop, Http.bind_apply_of_ok h]
    rfl
  rw [retryRequest, Http.bind_apply_of_ok hloop]
  rfl

/-- **What every try ends in, the retried request ends in.**  `Q` is what is known
of the retryable value. -/
theorem Http.Triple.retryRequest {σ T : Type} {env : Environment} {P R : Session σ → Prop}
    {Q : T → Session σ → Prop} {empty : T} {requestFunction : Http σ (Retryable T)}
    (hQ : ∀ v s, Q v s → P s)
    (h : Http.Triple env P requestFunction (fun r s => Q r.result s) R) :
    Http.Triple env P (Caff.retryRequest empty requestFunction) Q R := by
  -- the loop is entered with at least one try left, so its value is that of some try
  have hloop : ∀ tries r, Http.Triple env P (retryLoop requestFunction (tries + 1) r)
      (fun r s => Q r.result s) R := by
    intro tries
    induction tries with
    | zero =>
        intro r
        refine Http.Triple.bind h fun r' => Http.Triple.ite (fun _ => ?_) fun _ => ?_
        · exact Http.Triple.pure fun _ hs => hs
        · exact Http.Triple.pure fun _ hs => hs
    | succ tries ih =>
        intro r
        refine Http.Triple.bind h fun r' => Http.Triple.ite (fun _ => ?_) fun _ => ?_
        · exact Http.Triple.pure fun _ hs => hs
        · exact (ih r').weaken (fun s hs => hQ _ s hs) fun _ _ hs => hs
  exact Http.Triple.bind (hloop 2 _) fun r => Http.Triple.pure fun _ hs => hs

/-- The tries make only the exchanges of the request, -/
theorem Http.spares_retryRequest {σ T : Type} {e : Endpoint} {empty : T}
    {requestFunction : Http σ (Retryable T)} (h : Http.Spares e requestFunction) :
    Http.Spares e (retryRequest empty requestFunction) := by
  have hloop : ∀ tries r, Http.Spares e (retryLoop requestFunction tries r) := by
    intro tries
    induction tries with
    | zero => exact fun r => Http.spares_pure r
    | succ tries ih =>
        intro r
        exact Http.spares_bind h fun r' => Http.spares_ite (Http.spares_pure r') (ih r')
  exact Http.spares_bind (hloop _ _) fun _ => Http.spares_pure _

/-- and no undefined access but its own. -/
theorem Http.defined_retryRequest {σ T : Type} {empty : T}
    {requestFunction : Http σ (Retryable T)} (h : Http.Defined requestFunction) :
    Http.Defined (retryRequest empty requestFunction) := by
  have hloop : ∀ tries r, Http.Defined (retryLoop requestFunction tries r) := by
    intro tries
    induction tries with
    | zero => exact fun r => Http.defined_pure r
    | succ tries ih =>
        intro r
        exact Http.defined_bind h fun r' => Http.defined_ite (Http.defined_pure r') (ih r')
  exact Http.defined_bind (hloop _ _) fun _ => Http.defined_pure _

/-- A request that stops is not retried. -/
theorem retryRequest_apply_of_error {σ T : Type} {empty : T} {e : Stop}
    {requestFunction : Http σ (Retryable T)} {env : Environment} {s s' : Session σ}
    (h : requestFunction env s = (.error e, s')) :
    retryRequest empty requestFunction env s = (.error e, s') := by
  have hloop : retryLoop requestFunction numRetries (retry empty) env s = (.error e, s') := by
    rw [numRetries, retryLoop, Http.bind_apply_of_error h]
  rw [retryRequest, Http.bind_apply_of_error hloop]

end Caff
