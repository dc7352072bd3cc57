/-
# Refreshing the shared credentials from several threads

`refreshCredentials` locks the shared credentials to read the refresh token, makes its
exchange without the lock, and locks them again to store what was granted.  The machine of
this file has the credentials, the calls of all the threads that share them, and the refresh
tokens that the server has given out, so that what it grants is fresh.
-/
import Caffeine.Authentication

namespace Caff

open Http
open Machine (holds_of_some holds_of_guard)

/-! ## Calls on shared credentials -/

/-- Where a call of `refreshCredentials` is. -/
inductive RefreshCall
  | idle
  | read (refreshToken : String)
  | granted (credentials : Credentials)
  deriving DecidableEq, Repr

structure Refreshing where
  credentials : Credentials
  calls : ℕ → RefreshCall
  issued : List String  -- the refresh tokens of the server

/-- The credentials as they are shared, with no call under way. -/
def Refreshing.start (credentials : Credentials) : Refreshing where
  credentials := credentials
  calls _ := .idle
  issued := [credentials.refreshToken]

/-- A refresh request: the token it presents, and what it is granted. -/
structure RefreshRequest where
  refreshToken : String
  reply : Option Credentials
  deriving DecidableEq, Repr

inductive RefreshAction
  | read (i : ℕ)
  | exchange (i : ℕ) (reply : Option Credentials)
  | write (i : ℕ)
  deriving DecidableEq, Repr

namespace Refreshing

def setCall (s : Refreshing) (i : ℕ) (call : RefreshCall) : Refreshing :=
  { s with calls := Function.update s.calls i call }

/-- `creds.lock().credentials.refreshToken` is copied. -/
def readStep (s : Refreshing) (i : ℕ) : Option Refreshing :=
  match s.calls i with
  | .idle => some (s.setCall i (.read s.credentials.refreshToken))
  | _ => none

/-- `refreshAuth`; where it grants nothing, `refreshCredentials` returns. -/
def exchangeStep (s : Refreshing) (i : ℕ) (reply : Option Credentials) :
    Option (Refreshing × List RefreshRequest) :=
  match s.calls i, reply with
  | .read refreshToken, none => some (s.setCall i .idle, [⟨refreshToken, none⟩])
  | .read refreshToken, some credentials =>
      if credentials.refreshToken ∉ s.issued then
        some ({ s with
            calls := Function.update s.calls i (.granted credentials)
            issued := credentials.refreshToken :: s.issued },
          [⟨refreshToken, some credentials⟩])
      else none
  | _, _ => none

/-- `creds.lock().credentials = ...`. -/
def writeStep (s : Refreshing) (i : ℕ) : Option Refreshing :=
  match s.calls i with
  | .granted credentials =>
      some { s with credentials := credentials, calls := Function.update s.calls i .idle }
  | _ => none

def step (s : Refreshing) : RefreshAction → Option (Refreshing × List RefreshRequest)
  | .read i => (s.readStep i).map (·, [])
  | .exchange i reply => s.exchangeStep i reply
  | .write i => (s.writeStep i).map (·, [])

end Refreshing

/-- The calls of `refreshCredentials` as a machine; the server is in the inputs. -/
def refreshMachine : Machine Refreshing RefreshAction RefreshRequest := ⟨Refreshing.step⟩

/-- A run from credentials that no call is working on. -/
def RefreshRuns (credentials : Credentials) (tr : List (Refreshing × RefreshAction))
    (es : List RefreshRequest) (s : Refreshing) : Prop :=
  refreshMachine.Run (.start credentials) tr es s

/-! ## What a step can do -/

inductive RefreshMoves (s : Refreshing) :
    RefreshAction → Refreshing → List RefreshRequest → Prop
  | read (i : ℕ) (hcall : s.calls i = .idle) :
      RefreshMoves s (.read i) (s.setCall i (.read s.credentials.refreshToken)) []
  | refuse (i : ℕ) (token : String) (hcall : s.calls i = .read token) :
      RefreshMoves s (.exchange i none) (s.setCall i .idle) [⟨token, none⟩]
  | grant (i : ℕ) (token : String) (c : Credentials) (hcall : s.calls i = .read token)
      (hfresh : c.refreshToken ∉ s.issued) :
      RefreshMoves s (.exchange i (some c))
        { s with
          calls := Function.update s.calls i (.granted c)
          issued := c.refreshToken :: s.issued } [⟨token, some c⟩]
  | write (i : ℕ) (c : Credentials) (hcall : s.calls i = .granted c) :
      RefreshMoves s (.write i)
        { s with credentials := c, calls := Function.update s.calls i .idle } []

/-- **Inversion of a step.** -/
theorem refreshMoves_of_step {s s' : Refreshing} {a : RefreshAction} {out : List RefreshRequest}
    (h : refreshMachine.step s a = some (s', out)) : RefreshMoves s a s' out := by
  have hstep : s.step a = some (s', out) := h
  cases a with
  | read i =>
      rw [Refreshing.step, Refreshing.readStep.eq_def] at hstep
      split at hstep
      · rename_i hcall
        exact holds_of_some hstep (.read i hcall)
      · cases hstep
  | exchange i reply =>
      rw [Refreshing.step, Refreshing.exchangeStep.eq_def] at hstep
      split at hstep
      · rename_i token hcall
        exact holds_of_some hstep (.refuse i token hcall)
      · rename_i token c hcall
        exact holds_of_guard hstep fun hfresh => .grant i token c hcall hfresh
      · cases hstep
  | write i =>
      rw [Refreshing.step, Refreshing.writeStep.eq_def] at hstep
      split at hstep
      · rename_i c hcall
        exact holds_of_some hstep (.write i c hcall)
      · cases hstep

/-- And back: the moves are steps. -/
theorem RefreshMoves.step {s s' : Refreshing} {a : RefreshAction} {out : List RefreshRequest}
    (h : RefreshMoves s a s' out) : refreshMachine.step s a = some (s', out) := by
  show s.step a = some (s', out)
  cases h with
  | read i hcall => simp [Refreshing.step, Refreshing.readStep, hcall]
  | refuse i token hcall => simp [Refreshing.step, Refreshing.exchangeStep, hcall]
  | grant i token c hcall hfresh =>
      simp [Refreshing.step, Refreshing.exchangeStep, hcall, hfresh]
  | write i c hcall => simp [Refreshing.step, Refreshing.writeStep, hcall]

/-! ## The property and its condition -/

/-- The token was presented in a refresh that succeeded. -/
def Spent (es : List RefreshRequest) (token : String) : Prop :=
  ∃ e ∈ es, e.refreshToken = token ∧ e.reply ≠ none

/-- No request presents a token for which an earlier one has succeeded. -/
def NoneSpentAgain (es : List RefreshRequest) : Prop :=
  es.Pairwise fun e e' => e.reply ≠ none → e'.refreshToken ≠ e.refreshToken

/-- The credentials that the server granted last. -/
def lastGranted (credentials : Credentials) (es : List RefreshRequest) : Credentials :=
  (es.filterMap (·.reply)).getLast?.getD credentials

/-- After all calls have finished the last grant is stored. -/
def StoresLast (credentials : Credentials) (es : List RefreshRequest) (s : Refreshing) : Prop :=
  (∀ i, s.calls i = .idle) → s.credentials = lastGranted credentials es

/-- A refresh is requested with the token that is stored, and while no other call has a grant
that it has not stored. -/
def RefreshesAlone (s : Refreshing) (a : RefreshAction) : Prop :=
  match a with
  | .exchange i _ => s.calls i = .read s.credentials.refreshToken ∧ ∀ j c, s.calls j ≠ .granted c
  | _ => True

/-! ## What is kept -/

/-- With the condition met so far: a token that was read is stored or spent; at most one call
has a grant, the last one, and then the stored token is spent. -/
structure RefreshInv (credentials : Credentials) (es : List RefreshRequest) (s : Refreshing) :
    Prop where
  again : NoneSpentAgain es
  read : ∀ i token, s.calls i = .read token → token = s.credentials.refreshToken ∨ Spent es token
  one : ∀ i j c c', s.calls i = .granted c → s.calls j = .granted c' → i = j
  pending : ∀ i c, s.calls i = .granted c → Spent es s.credentials.refreshToken ∧
    c = lastGranted credentials es ∧ ¬ Spent es c.refreshToken ∧ c.refreshToken ∈ s.issued
  settled : (∀ i c, s.calls i ≠ .granted c) →
    ¬ Spent es s.credentials.refreshToken ∧ s.credentials = lastGranted credentials es
  stored : s.credentials.refreshToken ∈ s.issued
  spent : ∀ token, Spent es token → token ∈ s.issued

section

variable {c₀ c : Credentials} {es out : List RefreshRequest} {s s' : Refreshing}
  {a : RefreshAction} {i j : ℕ} {token token' : String} {call : RefreshCall}

theorem refreshInv_start (c₀ : Credentials) : RefreshInv c₀ [] (.start c₀) where
  again := List.Pairwise.nil
  read i token h := by cases h
  one i j c c' h := by cases h
  pending i c h := by cases h
  settled _ := by
    constructor
    · rintro ⟨e, he, -⟩
      cases he
    · rfl
  stored := List.mem_singleton_self _
  spent token h := by
    obtain ⟨e, he, -⟩ := h
    cases he

/-- A request spends its token if it succeeds. -/
theorem spent_snoc {e : RefreshRequest} :
    Spent (es ++ [e]) token ↔ Spent es token ∨ e.refreshToken = token ∧ e.reply ≠ none := by
  unfold Spent
  simp only [List.mem_append, List.mem_singleton]
  constructor
  · rintro ⟨e', he' | rfl, hspent⟩
    · left
      exact ⟨e', he', hspent⟩
    · right
      exact hspent
  · rintro (⟨e', he', hspent⟩ | hspent)
    · exact ⟨e', .inl he', hspent⟩
    · exact ⟨e, .inr rfl, hspent⟩

theorem spent_refused : Spent (es ++ [⟨token', none⟩]) token ↔ Spent es token := by
  rw [spent_snoc]
  simp

theorem lastGranted_refused :
    lastGranted c₀ (es ++ [⟨token, none⟩]) = lastGranted c₀ es := by
  unfold lastGranted
  simp

theorem lastGranted_granted : lastGranted c₀ (es ++ [⟨token, some c⟩]) = c := by
  unfold lastGranted
  simp

/-- **One more request** presents no spent token exactly if its own is not spent yet. -/
theorem noneSpentAgain_snoc {e : RefreshRequest} :
    NoneSpentAgain (es ++ [e]) ↔ NoneSpentAgain es ∧ ¬ Spent es e.refreshToken := by
  unfold NoneSpentAgain Spent
  rw [List.pairwise_append]
  constructor
  · rintro ⟨hes, -, hlast⟩
    refine ⟨hes, ?_⟩
    rintro ⟨e', he', htoken, hreply⟩
    exact hlast e' he' e (List.mem_singleton_self e) hreply htoken.symm
  · rintro ⟨hes, hnot⟩
    refine ⟨hes, List.pairwise_singleton _ e, ?_⟩
    intro e' he' e'' he'' hreply htoken
    rw [List.mem_singleton.mp he''] at htoken
    exact hnot ⟨e', he', htoken.symm, hreply⟩

/-- A call that has no grant, before and after, leaves the grants as they are. -/
theorem granted_update_iff (hi : ∀ c, s.calls i ≠ .granted c) (hcall : ∀ c, call ≠ .granted c) :
    Function.update s.calls i call j = .granted c ↔ s.calls j = .granted c := by
  by_cases hj : j = i
  · rw [hj, Function.update_self]
    exact iff_of_false (hcall c) (hi c)
  · rw [Function.update_of_ne hj]

/-- A call has its token from before, or has just got it. -/
theorem read_update (h : Function.update s.calls i call j = .read token) :
    call = .read token ∨ s.calls j = .read token := by
  by_cases hj : j = i
  · left
    rwa [hj, Function.update_self] at h
  · right
    rwa [Function.update_of_ne hj] at h

/-- Where a call goes on without a grant and the requests so far spend and grant what they
did, all is kept. -/
theorem RefreshInv.setCall {es' : List RefreshRequest} (h : RefreshInv c₀ es s)
    (hi : ∀ c, s.calls i ≠ .granted c) (hcall : ∀ c, call ≠ .granted c)
    (hread : ∀ token, call = .read token → token = s.credentials.refreshToken)
    (hagain : NoneSpentAgain es') (hspent : ∀ token, Spent es' token ↔ Spent es token)
    (hlast : lastGranted c₀ es' = lastGranted c₀ es) : RefreshInv c₀ es' (s.setCall i call) := by
  have hgranted : ∀ j c, (s.setCall i call).calls j = .granted c ↔ s.calls j = .granted c :=
    fun _ _ => granted_update_iff hi hcall
  constructor
  · exact hagain
  · intro j token hj
    rw [hspent]
    rcases read_update hj with hnew | hold
    · left
      exact hread token hnew
    · exact h.read j token hold
  · intro j k c c' hj hk
    exact h.one j k c c' ((hgranted j c).mp hj) ((hgranted k c').mp hk)
  · intro j c hj
    rw [hspent, hspent, hlast]
    exact h.pending j c ((hgranted j c).mp hj)
  · intro hnone
    rw [hspent, hlast]
    apply h.settled
    intro j c hj
    exact hnone j c ((hgranted j c).mpr hj)
  · exact h.stored
  · intro token ht
    exact h.spent token ((hspent token).mp ht)

/-- A call reads the token that is stored. -/
theorem RefreshInv.read_moves (h : RefreshInv c₀ es s) (hcall : s.calls i = .idle) :
    RefreshInv c₀ es (s.setCall i (.read s.credentials.refreshToken)) := by
  apply h.setCall
  · intro c
    rw [hcall]
    simp
  · intro c
    simp
  · intro token ht
    cases ht
    rfl
  · exact h.again
  · intro token
    rfl
  · rfl

/-- A refresh is refused. -/
theorem RefreshInv.refuse_moves (h : RefreshInv c₀ es s) (hcall : s.calls i = .read token)
    (hread : s.calls i = .read s.credentials.refreshToken) (hnone : ∀ j c, s.calls j ≠ .granted c) :
    RefreshInv c₀ (es ++ [⟨token, none⟩]) (s.setCall i .idle) := by
  apply h.setCall (hnone i)
  · intro c
    simp
  · intro token' ht
    cases ht
  · rw [noneSpentAgain_snoc]
    rw [hcall, RefreshCall.read.injEq] at hread
    refine ⟨h.again, ?_⟩
    rw [hread]
    exact (h.settled hnone).1
  · intro token'
    exact spent_refused
  · exact lastGranted_refused

/-- A refresh that is made alone is granted: its call is the only one that has a grant. -/
theorem RefreshInv.grant_moves (h : RefreshInv c₀ es s) (hcall : s.calls i = .read token)
    (hfresh : c.refreshToken ∉ s.issued) (hread : s.calls i = .read s.credentials.refreshToken)
    (hnone : ∀ j c, s.calls j ≠ .granted c) :
    RefreshInv c₀ (es ++ [⟨token, some c⟩])
      { s with
        calls := Function.update s.calls i (.granted c)
        issued := c.refreshToken :: s.issued } := by
  rw [hcall, RefreshCall.read.injEq] at hread
  obtain ⟨hunspent, hstored⟩ := h.settled hnone
  have hi : Function.update s.calls i (.granted c) i = .granted c := Function.update_self ..
  -- the call `i` is the only one that has a grant
  have honly : ∀ j c', Function.update s.calls i (.granted c) j = .granted c' →
      j = i ∧ c' = c := by
    intro j c' hj
    by_cases hji : j = i
    · rw [hji, hi, RefreshCall.granted.injEq] at hj
      exact ⟨hji, hj.symm⟩
    · rw [Function.update_of_ne hji] at hj
      exact absurd hj (hnone j c')
  constructor
  · rw [noneSpentAgain_snoc, hread]
    exact ⟨h.again, hunspent⟩
  · intro j token' hj
    rcases read_update hj with hnew | hold
    · cases hnew
    · rcases h.read j token' hold with heq | hspent
      · left
        exact heq
      · right
        rw [spent_snoc]
        left
        exact hspent
  · intro j k c' c'' hj hk
    rw [(honly j c' hj).1, (honly k c'' hk).1]
  · intro j c' hj
    obtain ⟨-, rfl⟩ := honly j c' hj
    refine ⟨?_, lastGranted_granted.symm, ?_, List.mem_cons_self ..⟩
    · rw [spent_snoc]
      right
      exact ⟨hread, Option.some_ne_none _⟩
    · -- the new token is fresh
      rw [spent_snoc]
      rintro (hspent | ⟨heq, -⟩)
      · exact hfresh (h.spent _ hspent)
      · apply hfresh
        rw [← heq, hread]
        exact h.stored
  · intro hnot
    exact absurd hi (hnot i c)
  · exact List.mem_cons_of_mem _ h.stored
  · intro token' ht
    rcases spent_snoc.mp ht with hspent | ⟨heq, -⟩
    · exact List.mem_cons_of_mem _ (h.spent token' hspent)
    · rw [← heq, hread]
      exact List.mem_cons_of_mem _ h.stored

/-- The only grant is stored. -/
theorem RefreshInv.write_moves (h : RefreshInv c₀ es s) (hcall : s.calls i = .granted c) :
    RefreshInv c₀ es { s with credentials := c, calls := Function.update s.calls i .idle } := by
  obtain ⟨hspent, hlast, hunspent, hissued⟩ := h.pending i c hcall
  have hnone : ∀ j c', Function.update s.calls i .idle j ≠ .granted c' := by
    intro j c' hj
    by_cases hji : j = i
    · rw [hji, Function.update_self] at hj
      cases hj
    · rw [Function.update_of_ne hji] at hj
      exact hji (h.one j i c' c hj hcall)
  constructor
  · exact h.again
  · intro j token hj
    right
    rcases read_update hj with hnew | hold
    · cases hnew
    · rcases h.read j token hold with heq | ht
      · rw [heq]
        exact hspent
      · exact ht
  · intro j k c' c'' hj
    exact absurd hj (hnone j c')
  · intro j c' hj
    exact absurd hj (hnone j c')
  · intro _
    exact ⟨hunspent, hlast⟩
  · exact hissued
  · exact h.spent

/-- **Step lemma.** -/
theorem RefreshInv.moves (h : RefreshInv c₀ es s) (hC : RefreshesAlone s a)
    (hmoves : RefreshMoves s a s' out) : RefreshInv c₀ (es ++ out) s' := by
  cases hmoves with
  | read i hcall =>
      rw [List.append_nil]
      exact h.read_moves hcall
  | refuse i token hcall => exact h.refuse_moves hcall hC.1 hC.2
  | grant i token c hcall hfresh => exact h.grant_moves hcall hfresh hC.1 hC.2
  | write i c hcall =>
      rw [List.append_nil]
      exact h.write_moves hcall

/-- **A step that does not meet the condition** presents a token that is spent. -/
theorem RefreshInv.spent_of_not_alone (h : RefreshInv c₀ es s) (hC : ¬ RefreshesAlone s a)
    (hmoves : RefreshMoves s a s' out) : ¬ NoneSpentAgain (es ++ out) := by
  -- what the call read is stored no longer, or is stored and spent
  have hspent : ∀ i token reply, a = .exchange i reply → s.calls i = .read token →
      Spent es token := by
    rintro i token reply rfl hcall
    rcases h.read i token hcall with heq | hspent
    · rw [heq] at hcall ⊢
      by_contra hunspent
      apply hC
      refine ⟨hcall, ?_⟩
      intro j c hj
      exact hunspent (h.pending j c hj).1
    · exact hspent
  cases hmoves with
  | read i hcall => exact absurd trivial hC
  | refuse i token hcall =>
      rw [noneSpentAgain_snoc]
      rintro ⟨-, hnot⟩
      exact hnot (hspent i token none rfl hcall)
  | grant i token c hcall hfresh =>
      rw [noneSpentAgain_snoc]
      rintro ⟨-, hnot⟩
      exact hnot (hspent i token (some c) rfl hcall)
  | write i c hcall => exact absurd trivial hC

/-- **Run lemma.** -/
theorem RefreshRuns.inv {tr : List (Refreshing × RefreshAction)} (h : RefreshRuns c₀ tr es s)
    (hmeets : Machine.Meets RefreshesAlone tr) : RefreshInv c₀ es s := by
  apply h.induction_on_steps (I := fun es s => RefreshInv c₀ es s) (refreshInv_start c₀) _ hmeets
  intro es s a s' out hinv hC hs
  exact hinv.moves hC (refreshMoves_of_step hs)

/-- Where no spent token is presented all steps meet the condition. -/
theorem RefreshRuns.meets {tr : List (Refreshing × RefreshAction)} (h : RefreshRuns c₀ tr es s)
    (hagain : NoneSpentAgain es) : Machine.Meets RefreshesAlone tr := by
  induction h with
  | refl => exact Machine.meets_nil _
  | @snoc s s' tr es out a hrun hs ih =>
      have hes : NoneSpentAgain es := (List.pairwise_append.mp hagain).1
      have htr := ih hes
      rw [Machine.meets_snoc]
      refine ⟨htr, ?_⟩
      by_contra hC
      exact (RefreshRuns.inv hrun htr).spent_of_not_alone hC (refreshMoves_of_step hs) hagain

end

/-! ## One call by itself -/

/-- **The steps of one call**: without other calls in between they do to the credentials what
`refreshCredentials` does. -/
theorem exec_refreshCredentials {env : Environment} {s t : Session Credentials}
    {x : Except Stop Bool} (h : refreshCredentials env s = (x, t)) {sh : Refreshing} {i : ℕ}
    (hstored : sh.credentials = s.state) (hidle : sh.calls i = .idle) :
    (x = .ok true ∧ (t.state.refreshToken ∉ sh.issued →
      ∃ sh', refreshMachine.exec sh [.read i, .exchange i (some t.state), .write i] =
          some (sh', [⟨s.state.refreshToken, some t.state⟩]) ∧
        sh'.credentials = t.state ∧ sh'.calls i = .idle)) ∨
    (x ≠ .ok true ∧
      ∃ sh', refreshMachine.exec sh [.read i, .exchange i none] =
          some (sh', [⟨s.state.refreshToken, none⟩]) ∧
        sh'.credentials = t.state ∧ sh'.calls i = .idle) := by
  have hauth : Triple env (fun s' => s'.state = s.state)
      (refreshAuth (toBytes s.state.refreshToken))
      (fun _ s' => True ∧ s'.state = s.state) (fun s' => s'.state = s.state) :=
    triple_refreshAuth (Q := fun _ => True) (I := fun c => c = s.state) (fun _ _ => trivial)
      fun _ _ _ _ _ => trivial
  replace hauth := hauth s rfl
  -- the first step copies the token, and the second one goes on with it
  have hread := (RefreshMoves.read i hidle).step
  rw [hstored] at hread
  have hcall : (sh.setCall i (.read s.state.refreshToken)).calls i =
      .read s.state.refreshToken := Function.update_self ..
  -- a call that is granted nothing leaves the credentials
  have hnothing : t.state = s.state → ∃ sh', refreshMachine.exec sh [.read i, .exchange i none] =
      some (sh', [⟨s.state.refreshToken, none⟩]) ∧
        sh'.credentials = t.state ∧ sh'.calls i = .idle := by
    intro hsame
    have hrefuse := (RefreshMoves.refuse i _ hcall).step
    refine ⟨(sh.setCall i (.read s.state.refreshToken)).setCall i .idle, ?_, ?_, ?_⟩
    · rw [Machine.exec, hread]
      simp only [Machine.exec, hrefuse, List.nil_append, List.append_nil]
    · rw [hsame]
      exact hstored
    · exact Function.update_self ..
  rw [refreshCredentials, get_bind_apply] at h
  rcases hr : refreshAuth (toBytes s.state.refreshToken) env s with ⟨e | response, s'⟩
  · right
    rw [bind_apply_of_error hr, Prod.mk.injEq] at h
    obtain ⟨rfl, rfl⟩ := h
    exact ⟨by simp, hnothing (hauth.2 e s' hr)⟩
  · rw [bind_apply_of_ok hr] at h
    rcases hc : response.credentials with _ | c
    · right
      simp only [hc, pure_apply, Prod.mk.injEq] at h
      obtain ⟨rfl, rfl⟩ := h
      exact ⟨by simp, hnothing (hauth.1 response s' hr).2⟩
    · left
      simp only [hc, modify_bind_apply, pure_apply, Prod.mk.injEq] at h
      obtain ⟨rfl, rfl⟩ := h
      refine ⟨rfl, ?_⟩
      intro hfresh
      -- the credentials and the calls after the grant, and after it is stored
      generalize hsh : sh.setCall i (.read s.state.refreshToken) = sh₁ at hread hcall
      have hissued : sh₁.issued = sh.issued := by
        rw [← hsh]
        rfl
      have hgrant := (RefreshMoves.grant i _ c hcall (hissued ▸ hfresh)).step
      generalize hsh₁ : ({ sh₁ with
        calls := Function.update sh₁.calls i (.granted c)
        issued := c.refreshToken :: sh₁.issued } : Refreshing) = sh₂ at hgrant
      have hcall₂ : sh₂.calls i = .granted c := by
        rw [← hsh₁]
        exact Function.update_self ..
      have hwrite := (RefreshMoves.write i c hcall₂).step
      refine ⟨{ sh₂ with credentials := c, calls := Function.update sh₂.calls i .idle }, ?_, rfl,
        Function.update_self ..⟩
      rw [Machine.exec, hread]
      simp only [Machine.exec, hgrant, hwrite, List.nil_append, List.append_nil]

/-! ## Every interleaving -/

/-- **Refreshes from several threads.**  In a run no request presents a token for which an
earlier one has succeeded, and after all calls have finished the stored credentials are the
last ones granted, exactly if every request is made with the stored token and while no other
call has a grant that it has not stored. -/
theorem refreshSafe_iff {c₀ : Credentials} {tr : List (Refreshing × RefreshAction)}
    {es : List RefreshRequest} {s : Refreshing} (h : RefreshRuns c₀ tr es s) :
    (NoneSpentAgain es ∧ StoresLast c₀ es s) ↔ Machine.Meets RefreshesAlone tr := by
  constructor
  · rintro ⟨hagain, -⟩
    exact h.meets hagain
  · intro hmeets
    have hinv := h.inv hmeets
    refine ⟨hinv.again, ?_⟩
    intro hidle
    apply (hinv.settled _).2
    intro i c hcall
    rw [hidle i] at hcall
    cases hcall

/-- Credentials with another refresh token. -/
def credentialsWith (refreshToken : String) : Credentials :=
  ⟨"access", refreshToken, "CAID1", "credential"⟩

/-- Two calls one after the other. -/
theorem refreshSafe_iff_oneByOne :
    ∃ tr es s, RefreshRuns (credentialsWith "t0") tr es s ∧
      s.credentials = credentialsWith "t2" ∧
      ((NoneSpentAgain es ∧ StoresLast (credentialsWith "t0") es s) ↔
        Machine.Meets RefreshesAlone tr) := by
  have hexec : refreshMachine.exec (.start (credentialsWith "t0"))
      [.read 0, .exchange 0 (some (credentialsWith "t1")), .write 0,
        .read 1, .exchange 1 (some (credentialsWith "t2")), .write 1] = some (_, _) := rfl
  exact ⟨_, _, _, .of_exec hexec, rfl, refreshSafe_iff (.of_exec hexec)⟩

/-- Two calls that read the same token: it is presented twice, and the grants are stored in
the other order. -/
theorem not_refreshSafe_overlapping :
    ∃ tr es s, RefreshRuns (credentialsWith "t0") tr es s ∧ (∀ i, s.calls i = .idle) ∧
      es = [⟨"t0", some (credentialsWith "t1")⟩, ⟨"t0", some (credentialsWith "t2")⟩] ∧
      s.credentials = credentialsWith "t1" ∧ ¬ NoneSpentAgain es ∧
      ¬ StoresLast (credentialsWith "t0") es s := by
  have hexec : refreshMachine.exec (.start (credentialsWith "t0"))
      [.read 0, .read 1, .exchange 0 (some (credentialsWith "t1")),
        .exchange 1 (some (credentialsWith "t2")), .write 1, .write 0] = some (_, _) := rfl
  have hidle : ∀ i, Function.update (Function.update (Function.update (Function.update
      (Function.update (Function.update (fun _ => RefreshCall.idle) 0 (.read "t0")) 1
        (.read "t0")) 0 (.granted (credentialsWith "t1"))) 1
      (.granted (credentialsWith "t2"))) 1 .idle) 0 .idle i = .idle := by
    intro i
    by_cases h₀ : i = 0
    · rw [h₀, Function.update_self]
    · by_cases h₁ : i = 1
      · rw [Function.update_of_ne h₀, h₁, Function.update_self]
      · simp only [Function.update_of_ne h₀, Function.update_of_ne h₁]
  refine ⟨_, _, _, .of_exec hexec, hidle, rfl, rfl, ?_, ?_⟩
  · rw [NoneSpentAgain]
    decide
  · intro hlast
    exact absurd (hlast hidle) (by decide)

end Caff
