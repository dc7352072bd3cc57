/-
# What a request with credentials comes to

Beyond whether they end, what the requests of `src/RestApi.cpp` that refresh their
credentials do: how many exchanges they make with each endpoint, which credentials they leave
behind, and what they return.  All three are read off the outcomes.  The exchanges go up to
the first one after which the request does not go on, and that one alone decides the result.
-/
import Caffeine.RefreshRecursion

namespace Caff

open Http

variable {T : Type}

/-! ## Refreshes -/

/-- What a refresh makes of its outcome: new credentials, none, or an exception. -/
def refreshAnswer (env : Environment) (o : HttpOutcome) : Json.Access (Option Credentials) :=
  if o.curlResult ≠ .ok ∨ o.responseCode = 401 then .ok none
  else
    match env.document o with
    | none => .ok none
    | some responseJson => (fun r => r.result.credentials) <$> readRefreshAuth responseJson

section

variable {env : Environment} {s : Session Credentials} {o : HttpOutcome}

theorem refreshAnswer_of_document {j : Json} (ho : o.curlResult = .ok)
    (h401 : o.responseCode ≠ 401) (hj : env.document o = some j) :
    refreshAnswer env o = (fun r => r.result.credentials) <$> readRefreshAuth j := by
  rw [refreshAnswer, if_neg (by simp [ho, h401]), hj]

theorem refreshAnswer_of_no_document
    (h : o.curlResult = .ok → o.responseCode ≠ 401 → env.document o = none) :
    refreshAnswer env o = .ok none := by
  unfold refreshAnswer
  by_cases hno : o.curlResult ≠ .ok ∨ o.responseCode = 401
  · rw [if_pos hno]
  · rw [not_or, not_not] at hno
    rw [if_neg (by simp [hno.1, hno.2]), h hno.1 hno.2]

/-- Only a document brings credentials. -/
theorem refreshAnswer_eq_some_iff {c : Credentials} :
    refreshAnswer env o = .ok (some c) ↔
      o.curlResult = .ok ∧ o.responseCode ≠ 401 ∧ ∃ j r, env.document o = some j ∧
        readRefreshAuth j = .ok r ∧ r.result.credentials = some c := by
  by_cases h : o.curlResult = .ok ∧ o.responseCode ≠ 401 ∧ ∃ j, env.document o = some j
  · obtain ⟨ho, h401, j, hj⟩ := h
    rw [refreshAnswer_of_document ho h401 hj]
    cases hread : readRefreshAuth j with
    | error f => simp [hj, hread, Functor.map, Except.map]
    | ok r => simp [ho, h401, hj, hread, Functor.map, Except.map]
  · have hnone : refreshAnswer env o = .ok none := by
      apply refreshAnswer_of_no_document
      intro ho h401
      by_contra hsome
      exact h ⟨ho, h401, Option.ne_none_iff_exists'.mp hsome⟩
    rw [hnone]
    refine iff_of_false (by simp) ?_
    rintro ⟨ho, h401, j, -, hj, -⟩
    exact h ⟨ho, h401, j, hj⟩

/-- **One refresh**: one exchange, and the credentials it brings, if any. -/
theorem refreshCredentials_apply (env : Environment) (s : Session Credentials) :
    refreshCredentials env s =
      match refreshAnswer env (env.outcomes .refreshToken (s.asked .refreshToken)) with
      | .ok (some c) => (.ok true, { s.ask .refreshToken with state := c })
      | .ok none => (.ok false, s.ask .refreshToken)
      | .error f => (.error (.fault f), s.ask .refreshToken) := by
  have htoken := isUtf8_toBytes s.state.refreshToken
  by_cases h : (env.outcomes .refreshToken (s.asked .refreshToken)).curlResult = .ok ∧
      (env.outcomes .refreshToken (s.asked .refreshToken)).responseCode ≠ 401 ∧
      ∃ j, env.document (env.outcomes .refreshToken (s.asked .refreshToken)) = some j
  · obtain ⟨ho, h401, j, hj⟩ := h
    have hdo := doRefreshAuth_apply_of_document htoken ho h401 hj
    rw [refreshAnswer_of_document ho h401 hj]
    rcases hwalk : readRefreshAuth j with f | r
    · rw [hwalk, lift_error] at hdo
      rw [refreshCredentials, get_bind_apply, refreshAuth,
        bind_apply_of_error (retryRequest_apply_of_error hdo)]
      rfl
    · have hr : r = complete r.result := by
        have := walkCompletes_readRefreshAuth j r hwalk
        rw [isComplete, decide_eq_true_eq] at this
        rw [complete, ← this]
      rw [hwalk, lift_ok, hr] at hdo
      rw [refreshCredentials, get_bind_apply, refreshAuth,
        bind_apply_of_ok (retryRequest_apply_of_complete hdo)]
      rcases r with ⟨desire, ⟨result, _ | c⟩⟩
      · rfl
      · rfl
  · have hno : (env.outcomes .refreshToken (s.asked .refreshToken)).curlResult = .ok →
        (env.outcomes .refreshToken (s.asked .refreshToken)).responseCode ≠ 401 →
        env.document (env.outcomes .refreshToken (s.asked .refreshToken)) = none := by
      intro ho h401
      by_contra hsome
      exact h ⟨ho, h401, Option.ne_none_iff_exists'.mp hsome⟩
    obtain ⟨r, hdo, hcredentials⟩ := doRefreshAuth_apply_of_no_document htoken hno
    rw [refreshAnswer_of_no_document hno, refreshCredentials, get_bind_apply, refreshAuth,
      bind_apply_of_ok (retryRequest_apply_of_complete hdo), hcredentials]
    rfl

/-- The refresh is granted if it brings credentials. -/
theorem granted_iff : Granted env o ↔ ∃ c, refreshAnswer env o = .ok (some c) := by
  simp only [refreshAnswer_eq_some_iff]
  constructor
  · rintro ⟨ho, h401, j, creds, hj, herrors, hcreds, hshape⟩
    obtain ⟨c, hc⟩ := succeeds_credentials_iff.mpr hshape
    exact ⟨c, ho, h401, j, _, hj, readRefreshAuth_of_credentials herrors hcreds hc, rfl⟩
  · rintro ⟨c, ho, h401, j, r, hj, hread, hcredentials⟩
    have hshape := succeeds_readRefreshAuth_iff.mp ⟨r, hread⟩
    have hbrings : j.find "errors" = none ∧ j.find "credentials" ≠ none := by
      by_contra hno
      rw [not_and_or, not_not] at hno
      obtain ⟨r', hread', hnone⟩ := readRefreshAuth_of_refused hshape hno
      rw [hread', Except.ok.injEq] at hread
      rw [← hread] at hcredentials
      exact absurd (hnone.symm.trans hcredentials) (by simp)
    obtain ⟨creds, hcreds⟩ := Option.ne_none_iff_exists'.mp hbrings.2
    rw [RefreshShape, hbrings.1, hcreds] at hshape
    exact ⟨ho, h401, j, creds, hj, hbrings.1, hcreds, hshape⟩

end

/-- The credentials after `count` refreshes, which take the outcomes from `n` on. -/
def refreshed (env : Environment) : ℕ → ℕ → Credentials → Credentials
  | _, 0, creds => creds
  | n, count + 1, creds =>
      refreshed env (n + 1) count
        (match refreshAnswer env (env.outcomes .refreshToken n) with
          | .ok (some c) => c
          | _ => creds)

/-! ## Calls -/

/-- A request that refreshes its credentials, with what it makes of an outcome other than a
status 401: a value, or an exception.  After the outcomes of `retried` it is tried again. -/
structure AuthorizedCall (T : Type) where
  endpoint : Endpoint
  unreachable : Retryable T
  refused : T
  answer : HttpOutcome → Http Credentials (Retryable T)
  empty : T
  reply : Environment → HttpOutcome → Json.Access (Retryable T)
  retried : HttpOutcome → Bool
  endpoint_ne : endpoint ≠ .refreshToken
  replies : Replies unreachable (complete refused) answer retried
  answered : ∀ env s o, ¬ Unauthorized o →
    (if o.curlResult ≠ .ok then pure unreachable else answer o : Http Credentials _) env s =
      lift (reply env o) env s

namespace AuthorizedCall

variable (call : AuthorizedCall T) (env : Environment) (s : Session Credentials)

/-- The call, whose recursion the model follows to `depth`. -/
def request (depth : ℕ) : Http Credentials T :=
  retryRequest call.empty
    (authorizedRequest call.endpoint call.unreachable (complete call.refused) call.answer depth)

/-- After exchange `i` of a call made at `s` there is another one. -/
def goesOn (i : ℕ) : Prop :=
  GoesOn env call.endpoint call.retried 0 (s.asked call.endpoint) (s.asked .refreshToken) i

/-- What the exchange with outcome `o` comes to, where a refresh would get `r`. -/
def verdict (o r : HttpOutcome) : Json.Access (Retryable T) :=
  if Unauthorized o then
    match refreshAnswer env r with
    | .ok _ => .ok (complete call.refused)
    | .error f => .error f
  else call.reply env o

/-- What the call returns, or throws, if exchange `i` is the last one. -/
def result (i : ℕ) : Json.Access T :=
  (fun r => r.result) <$> call.verdict env
    (env.outcomes call.endpoint (s.asked call.endpoint + i))
    (env.outcomes .refreshToken (s.asked .refreshToken +
      refreshesBefore env call.endpoint (s.asked call.endpoint) i))

/-- The session `count` exchanges after `s`: each status 401 among them has been followed by
a refresh. -/
def after (count : ℕ) : Session Credentials :=
  let refreshes := refreshesBefore env call.endpoint (s.asked call.endpoint) count
  { asked :=
      Function.update (Function.update s.asked call.endpoint (s.asked call.endpoint + count))
        .refreshToken (s.asked .refreshToken + refreshes)
    state := refreshed env (s.asked .refreshToken) refreshes s.state }

variable {call env s} {o r : HttpOutcome}

theorem isComplete_of_reply {v : Retryable T} (h : ¬ Unauthorized o)
    (hreply : call.reply env o = .ok v) : isComplete v = !call.retried o := by
  have hanswered := call.answered env (.start ⟨"", "", "", ""⟩) o h
  rw [hreply, lift_ok] at hanswered
  rcases call.replies.answered env _ o h with ⟨w, s', hw, -, hcomplete⟩ | ⟨f, s', hf, -⟩
  · rw [hanswered, Prod.mk.injEq, Except.ok.injEq] at hw
    rw [hw.1]
    exact hcomplete
  · rw [hanswered] at hf
    cases hf

theorem retried_of_fault {f : Json.Fault} (h : ¬ Unauthorized o)
    (hreply : call.reply env o = .error f) : call.retried o = false := by
  have hanswered := call.answered env (.start ⟨"", "", "", ""⟩) o h
  rw [hreply, lift_error] at hanswered
  rcases call.replies.answered env _ o h with ⟨w, s', hw, -, -⟩ | ⟨f', s', -, hretried⟩
  · rw [hanswered] at hw
    cases hw
  · exact hretried

theorem verdict_of_unauthorized (h : Unauthorized o) :
    call.verdict env o r =
      match refreshAnswer env r with
      | .ok _ => .ok (complete call.refused)
      | .error f => .error f :=
  if_pos h

theorem verdict_of_answered (h : ¬ Unauthorized o) : call.verdict env o r = call.reply env o :=
  if_neg h

/-- Counts that agree for the other endpoints. -/
theorem counts_congr {f g : Endpoint → ℕ} {e : Endpoint} (a b : ℕ)
    (h : ∀ e', e' ≠ e → e' ≠ .refreshToken → f e' = g e') :
    Function.update (Function.update f e a) .refreshToken b =
      Function.update (Function.update g e a) .refreshToken b := by
  funext e'
  by_cases hr : e' = .refreshToken
  · rw [hr, Function.update_self, Function.update_self]
  · rw [Function.update_of_ne hr, Function.update_of_ne hr]
    by_cases he : e' = e
    · rw [he, Function.update_self, Function.update_self]
    · rw [Function.update_of_ne he, Function.update_of_ne he, h e' he hr]

/-- The count starts over after an exchange that is followed by a refresh, -/
theorem after_succ_of_unauthorized
    (h : Unauthorized (env.outcomes call.endpoint (s.asked call.endpoint))) (count : ℕ) :
    call.after env s (count + 1) =
      call.after env
        { (s.ask call.endpoint).ask .refreshToken with
          state := refreshed env (s.asked .refreshToken) 1 s.state } count := by
  have he := call.endpoint_ne
  have hasked : ((s.ask call.endpoint).ask .refreshToken).asked call.endpoint =
      s.asked call.endpoint + 1 := by
    simp [Session.ask, he]
  have hrefresh : ((s.ask call.endpoint).ask .refreshToken).asked .refreshToken =
      s.asked .refreshToken + 1 := by
    simp [Session.ask, he.symm]
  unfold after
  rw [refreshesBefore_succ, if_pos h]
  dsimp only
  rw [hasked, hrefresh, Nat.add_assoc _ 1, Nat.add_comm 1 count, Nat.add_assoc _ 1,
    Nat.add_comm 1 (refreshesBefore _ _ _ _), Session.mk.injEq]
  refine ⟨counts_congr _ _ fun e hcall hr => ?_, rfl⟩
  simp [Session.ask, hr, hcall]

/-- and after one that is not. -/
theorem after_succ_of_answered
    (h : ¬ Unauthorized (env.outcomes call.endpoint (s.asked call.endpoint))) (count : ℕ) :
    call.after env s (count + 1) = call.after env (s.ask call.endpoint) count := by
  have he := call.endpoint_ne
  have hasked : (s.ask call.endpoint).asked call.endpoint = s.asked call.endpoint + 1 := by
    simp [Session.ask]
  have hrefresh : (s.ask call.endpoint).asked .refreshToken = s.asked .refreshToken := by
    simp [Session.ask, he.symm]
  unfold after
  rw [refreshesBefore_succ, if_neg h]
  dsimp only
  rw [hasked, hrefresh, Nat.add_assoc _ 1, Nat.add_comm 1 count, Session.mk.injEq]
  refine ⟨counts_congr _ _ fun e hcall hr => ?_, rfl⟩
  simp [Session.ask, hcall]

theorem after_zero : call.after env s 0 = s := by
  have hself : Function.update (Function.update s.asked call.endpoint (s.asked call.endpoint))
      .refreshToken (s.asked .refreshToken) = s.asked := by
    rw [Function.update_eq_self, Function.update_eq_self]
  exact congrArg (fun asked => Session.mk asked s.state) hself

/-! ## One exchange -/

/-- One try of the call. -/
def once (call : AuthorizedCall T) : ℕ → Http Credentials (Retryable T) :=
  authorizedRequest call.endpoint call.unreachable (complete call.refused) call.answer

theorem asked_refreshToken_ask : (s.ask call.endpoint).asked .refreshToken =
    s.asked .refreshToken :=
  Function.update_of_ne call.endpoint_ne.symm _ _

theorem asked_endpoint_ask : (s.ask call.endpoint).asked call.endpoint =
    s.asked call.endpoint + 1 :=
  Function.update_self _ _ _

theorem asked_endpoint_refresh (creds : Credentials) :
    ({ (s.ask call.endpoint).ask .refreshToken with state := creds } :
      Session Credentials).asked call.endpoint = s.asked call.endpoint + 1 := by
  simp [Session.ask, call.endpoint_ne]

theorem asked_refreshToken_refresh (creds : Credentials) :
    ({ (s.ask call.endpoint).ask .refreshToken with state := creds } :
      Session Credentials).asked .refreshToken = s.asked .refreshToken + 1 := by
  simp [Session.ask, call.endpoint_ne.symm]

/-- After a granted refresh the try goes on with the new credentials. -/
theorem inTry_refreshed
    (h : Unauthorized (env.outcomes call.endpoint (s.asked call.endpoint)))
    (hg : Granted env (env.outcomes .refreshToken (s.asked .refreshToken))) (d D tries : ℕ) :
    inTry call.once (d + 1) D tries env s =
      inTry call.once d D tries env
        { (s.ask call.endpoint).ask .refreshToken with
          state := refreshed env (s.asked .refreshToken) 1 s.state } := by
  obtain ⟨c, hc⟩ := granted_iff.mp hg
  have hstate : refreshed env (s.asked .refreshToken) 1 s.state = c := by
    rw [refreshed, hc, refreshed]
  have hrefresh : refreshCredentials env (s.ask call.endpoint) =
      (.ok true, { (s.ask call.endpoint).ask .refreshToken with state := c }) := by
    rw [refreshCredentials_apply, asked_refreshToken_ask, hc]
  rw [hstate, inTry, bind_apply, once, authorizedRequest_apply_of_unauthorized h,
    bind_apply_of_ok hrefresh, if_pos rfl, inTry, bind_apply]

/-- An outcome other than 401 is answered. -/
theorem once_of_answered
    (h : ¬ Unauthorized (env.outcomes call.endpoint (s.asked call.endpoint))) (d : ℕ) :
    call.once (d + 1) env s =
      lift (call.reply env (env.outcomes call.endpoint (s.asked call.endpoint))) env
        (s.ask call.endpoint) := by
  rw [once, authorizedRequest_apply_of_answered h, call.answered env _ _ h]

/-- An outcome that is tried again lets the next try begin. -/
theorem inTry_retried
    (hretried : call.retried (env.outcomes call.endpoint (s.asked call.endpoint)) = true) :
    ∃ v, call.reply env (env.outcomes call.endpoint (s.asked call.endpoint)) = .ok v ∧
      ∀ d D tries, inTry call.once (d + 1) D tries env s =
        retryLoop (call.once D) tries v env (s.ask call.endpoint) := by
  have h := call.replies.not_unauthorized hretried
  cases hreply : call.reply env (env.outcomes call.endpoint (s.asked call.endpoint)) with
  | error f =>
      rw [retried_of_fault h hreply] at hretried
      cases hretried
  | ok v =>
      refine ⟨v, rfl, fun d D tries => ?_⟩
      have honce : call.once (d + 1) env s = _ := once_of_answered h d
      rw [hreply, lift_ok] at honce
      have hnot : ¬ isComplete v = true := by simp [isComplete_of_reply h hreply, hretried]
      rw [inTry, bind_apply_of_ok honce, if_neg hnot]

/-- **The last exchange.**  A call that does not go on after its first exchange ends with
what this comes to. -/
theorem inTry_last {used tries : ℕ} (hused : used + tries + 1 = numRetries)
    (hnot : ¬ GoesOn env call.endpoint call.retried used (s.asked call.endpoint)
      (s.asked .refreshToken) 0) (d D : ℕ) :
    inTry call.once (d + 1) D tries env s =
      lift (call.verdict env (env.outcomes call.endpoint (s.asked call.endpoint))
        (env.outcomes .refreshToken (s.asked .refreshToken))) env (call.after env s 1) := by
  rw [goesOn_zero_iff, not_or] at hnot
  obtain ⟨hnot401, hnotRetried⟩ := hnot
  by_cases h : Unauthorized (env.outcomes call.endpoint (s.asked call.endpoint))
  · -- the refresh brings no credentials
    have hrefresh := refreshCredentials_apply env (s.ask call.endpoint)
    rw [asked_refreshToken_ask] at hrefresh
    rw [after_succ_of_unauthorized h, after_zero, verdict_of_unauthorized h, inTry, bind_apply,
      once, authorizedRequest_apply_of_unauthorized h]
    cases hanswer : refreshAnswer env (env.outcomes .refreshToken (s.asked .refreshToken)) with
    | error f =>
        rw [hanswer] at hrefresh
        rw [bind_apply_of_error hrefresh, refreshed, hanswer]
        rfl
    | ok creds =>
        cases creds with
        | none =>
            rw [hanswer] at hrefresh
            rw [bind_apply_of_ok hrefresh, refreshed, hanswer]
            rfl
        | some c => exact absurd ⟨h, granted_iff.mpr ⟨c, hanswer⟩⟩ hnot401
  · rw [after_succ_of_answered h, after_zero, verdict_of_answered h]
    by_cases hretried : call.retried (env.outcomes call.endpoint (s.asked call.endpoint)) = true
    · -- the last try, so the request is not made again
      have htries : tries = 0 := by
        have := not_and.mp hnotRetried hretried
        omega
      obtain ⟨v, hv, hd⟩ := inTry_retried hretried
      rw [hd, htries, hv]
      rfl
    · have honce : call.once (d + 1) env s = _ := once_of_answered h d
      cases hreply : call.reply env (env.outcomes call.endpoint (s.asked call.endpoint)) with
      | error f =>
          rw [hreply, lift_error] at honce
          rw [inTry, bind_apply_of_error honce, lift_error]
      | ok v =>
          rw [hreply, lift_ok] at honce
          have hcomplete : isComplete v = true := by
            simp [isComplete_of_reply h hreply, hretried]
          rw [inTry, bind_apply_of_ok honce, if_pos hcomplete, lift_ok]
          rfl

/-! ## All exchanges -/

/-- **The exchanges up to the last one.** -/
theorem inTry_apply {i : ℕ} : ∀ (used tries : ℕ) {s : Session Credentials},
    used + tries + 1 = numRetries →
    (∀ j < i, GoesOn env call.endpoint call.retried used (s.asked call.endpoint)
      (s.asked .refreshToken) j) →
    ¬ GoesOn env call.endpoint call.retried used (s.asked call.endpoint)
      (s.asked .refreshToken) i →
    ∃ depth, ∀ d D, depth ≤ d → depth ≤ D →
      inTry call.once (d + 1) D tries env s =
        lift (call.verdict env (env.outcomes call.endpoint (s.asked call.endpoint + i))
          (env.outcomes .refreshToken (s.asked .refreshToken +
            refreshesBefore env call.endpoint (s.asked call.endpoint) i)))
          env (call.after env s (i + 1)) := by
  -- the induction is on the last exchange, from the first one on
  induction i with
  | zero =>
      intro used tries s hused _ hnot
      exact ⟨0, fun d D _ _ => inTry_last hused hnot d D⟩
  | succ i ih =>
      intro used tries s hused hbefore hnot
      have hfirst := hbefore 0 (Nat.succ_pos i)
      rcases goesOn_zero_iff.mp hfirst with ⟨h, hg⟩ | ⟨hretried, hlt⟩
      · have hr := call.replies.unauthorized _ h
        have hm := @asked_endpoint_refresh T call s
          (refreshed env (s.asked .refreshToken) 1 s.state)
        have hn := @asked_refreshToken_refresh T call s
          (refreshed env (s.asked .refreshToken) 1 s.state)
        have hrest := ih used tries (s := { (s.ask call.endpoint).ask .refreshToken with
          state := refreshed env (s.asked .refreshToken) 1 s.state }) hused
        rw [hm, hn] at hrest
        simp only [← goesOn_succ_of_unauthorized h hr] at hrest
        obtain ⟨depth, hd⟩ := hrest (fun j hj => hbefore (j + 1) (by omega)) hnot
        refine ⟨depth + 1, fun d D hle hle' => ?_⟩
        have hindex : s.asked call.endpoint + (i + 1) = s.asked call.endpoint + 1 + i := by omega
        have hcount : s.asked .refreshToken +
            refreshesBefore env call.endpoint (s.asked call.endpoint) (i + 1) =
              s.asked .refreshToken + 1 +
                refreshesBefore env call.endpoint (s.asked call.endpoint + 1) i := by
          rw [refreshesBefore_succ, if_pos h]
          omega
        have hnext := hd (d - 1) D (by omega) (by omega)
        rw [Nat.sub_add_cancel (Nat.le_of_add_left_le hle)] at hnext
        rw [inTry_refreshed h hg, after_succ_of_unauthorized h, hindex, hcount, hnext]
      · -- the next try begins
        obtain ⟨rest, rfl⟩ : ∃ rest, tries = rest + 1 := ⟨tries - 1, by omega⟩
        have h := call.replies.not_unauthorized hretried
        obtain ⟨v, -, hv⟩ := @inTry_retried T call env s hretried
        have hrest := ih (used + 1) rest (s := s.ask call.endpoint) (by omega)
        rw [asked_endpoint_ask, asked_refreshToken_ask] at hrest
        simp only [← goesOn_succ_of_retried h hretried] at hrest
        obtain ⟨depth, hd⟩ := hrest (fun j hj => hbefore (j + 1) (by omega)) hnot
        refine ⟨depth + 1, fun d D hle hle' => ?_⟩
        have hindex : s.asked call.endpoint + (i + 1) = s.asked call.endpoint + 1 + i := by omega
        have hcount : refreshesBefore env call.endpoint (s.asked call.endpoint) (i + 1) =
            refreshesBefore env call.endpoint (s.asked call.endpoint + 1) i := by
          rw [refreshesBefore_succ, if_neg h, Nat.add_zero]
        have hnext := hd (D - 1) D (by omega) (by omega)
        rw [Nat.sub_add_cancel (Nat.le_of_add_left_le hle')] at hnext
        rw [hv, after_succ_of_answered h, hindex, hcount, ← hnext]
        rfl

/-- **What a call comes to.**  If it goes on after every exchange before `i` and not after
that one, exchange `i` decides what it returns, and the exchanges are counted. -/
theorem request_apply {i : ℕ} (hbefore : ∀ j < i, call.goesOn env s j)
    (hlast : ¬ call.goesOn env s i) :
    ∃ depth, ∀ d, depth ≤ d →
      call.request d env s = lift (call.result env s i) env (call.after env s (i + 1)) := by
  obtain ⟨depth, hd⟩ := @inTry_apply T call env i 0 2 s rfl hbefore hlast
  refine ⟨depth + 1, fun d hle => ?_⟩
  have hloop : retryLoop (call.once d) numRetries (retry call.empty) env s =
      lift (call.verdict env (env.outcomes call.endpoint (s.asked call.endpoint + i))
        (env.outcomes .refreshToken (s.asked .refreshToken +
          refreshesBefore env call.endpoint (s.asked call.endpoint) i)))
        env (call.after env s (i + 1)) := by
    rw [← hd (d - 1) d (by omega) (by omega), Nat.sub_add_cancel (Nat.le_of_add_left_le hle)]
    rfl
  show (retryLoop (call.once d) numRetries (retry call.empty) >>= fun r => pure r.result) env s = _
  rw [result]
  cases hverdict : call.verdict env (env.outcomes call.endpoint (s.asked call.endpoint + i))
      (env.outcomes .refreshToken (s.asked .refreshToken +
        refreshesBefore env call.endpoint (s.asked call.endpoint) i)) with
  | error f =>
      rw [hverdict, lift_error] at hloop
      rw [bind_apply_of_error hloop]
      rfl
  | ok v =>
      rw [hverdict, lift_ok] at hloop
      rw [bind_apply_of_ok hloop]
      rfl

/-- The number of exchanges before exchange `i` that ask for another try. -/
def retriesBefore (call : AuthorizedCall T) (env : Environment) (m i : ℕ) : ℕ :=
  (List.range i).countP fun k => call.retried (env.outcomes call.endpoint (m + k))

/-- Every exchange that is gone on after is followed by a refresh or by another try, and
another try is made at most twice. -/
theorem exchanges_eq {i : ℕ} (hbefore : ∀ j < i, call.goesOn env s j) :
    i = refreshesBefore env call.endpoint (s.asked call.endpoint) i +
        call.retriesBefore env (s.asked call.endpoint) i ∧
      call.retriesBefore env (s.asked call.endpoint) i < numRetries := by
  induction i with
  | zero => exact ⟨rfl, (by decide : 0 < numRetries)⟩
  | succ i ih =>
      obtain ⟨hcount, hlt⟩ := ih fun j hj => hbefore j (by omega)
      have hrefreshes : refreshesBefore env call.endpoint (s.asked call.endpoint) (i + 1) =
          refreshesBefore env call.endpoint (s.asked call.endpoint) i +
            if Unauthorized (env.outcomes call.endpoint (s.asked call.endpoint + i)) then 1
            else 0 := by
        simp [refreshesBefore, List.range_succ, List.countP_append, List.countP_cons]
      have hretries : call.retriesBefore env (s.asked call.endpoint) (i + 1) =
          call.retriesBefore env (s.asked call.endpoint) i +
            if call.retried (env.outcomes call.endpoint (s.asked call.endpoint + i)) then 1
            else 0 := by
        simp [retriesBefore, List.range_succ, List.countP_append, List.countP_cons]
      rcases hbefore i (Nat.lt_succ_self i) with ⟨h, -⟩ | ⟨hretried, hthrough⟩
      · rw [hrefreshes, hretries, if_pos h, call.replies.unauthorized _ h]
        simp only [Bool.false_eq_true, if_false]
        omega
      · have hthrough : 0 + call.retriesBefore env (s.asked call.endpoint) (i + 1) < numRetries :=
          hthrough
        refine ⟨?_, by omega⟩
        rw [hrefreshes, hretries, if_neg (call.replies.not_unauthorized hretried), hretried]
        simp only [if_true]
        omega

/-- The request is the call: the first exchange after which it does not go on is its last,
decides its result, and comes at most two after the refreshes. -/
def Determines (call : AuthorizedCall T) (request : ℕ → Http Credentials T) (env : Environment)
    (s : Session Credentials) : Prop :=
  ∀ i, (∀ j < i, call.goesOn env s j) → ¬ call.goesOn env s i →
    i ≤ refreshesBefore env call.endpoint (s.asked call.endpoint) i + 2 ∧
      ∃ depth, ∀ d, depth ≤ d →
        request d env s = lift (call.result env s i) env (call.after env s (i + 1))

theorem determines_request : call.Determines call.request env s := by
  intro i hbefore hlast
  obtain ⟨hcount, hlt⟩ := exchanges_eq hbefore
  rw [numRetries] at hlt
  exact ⟨by omega, request_apply hbefore hlast⟩

/-- Serialising a request that can be serialised changes nothing. -/
theorem determines_dump {texts : List Bytes} (htexts : texts.all isUtf8 = true) :
    call.Determines
      (fun d => retryRequest call.empty (lift (dump texts) >>= fun _ => call.once d)) env s := by
  have hdump : dump texts = .ok () := by
    rw [dump, if_pos htexts]
  have heq : (fun d => retryRequest call.empty
      (lift (dump texts) >>= fun _ => call.once d)) = call.request := by
    funext d
    rw [hdump]
    rfl
  rw [heq]
  exact determines_request

end AuthorizedCall

/-! ## The five requests -/

/-- The reply of a request that walks the document of its response. -/
def bodyReply {α : Type} (walk : Json → Json.Access (Retryable (Option α))) (env : Environment)
    (o : HttpOutcome) : Json.Access (Retryable (Option α)) :=
  match env.document o with
  | none => .ok (complete none)
  | some responseJson => walk responseJson

theorem readBody_eq {α : Type} (walk : Json → Json.Access (Retryable (Option α)))
    (env : Environment) (s : Session Credentials) (o : HttpOutcome) :
    readBody o (complete none) walk env s = lift (bodyReply walk env o) env s := by
  rw [readBody, parseBody_bind_apply, bodyReply]
  cases env.document o with
  | none => rfl
  | some responseJson => rfl

def userInfoCall : AuthorizedCall (Option UserInfo) where
  endpoint := .user
  unreachable := complete none
  refused := none
  answer o := readBody o (complete none) readUserInfo
  empty := none
  reply env o := if o.curlResult ≠ .ok then .ok (complete none) else bodyReply readUserInfo env o
  retried := neverRetried
  endpoint_ne := by decide
  replies := replies_getUserInfo
  answered env s o _ := by
    by_cases ho : o.curlResult = .ok
    · rw [if_neg (not_not.mpr ho), if_neg (not_not.mpr ho), readBody_eq]
    · rw [if_pos ho, if_pos ho]
      rfl

def heartbeatCall : AuthorizedCall (Option HeartbeatResponse) where
  endpoint := .heartbeat
  unreachable := complete none
  refused := none
  answer o := if o.responseCode ≠ 200 then pure (complete none)
    else readBody o (complete none) readHeartbeat
  empty := none
  reply env o := if o.curlResult ≠ .ok ∨ o.responseCode ≠ 200 then .ok (complete none)
    else bodyReply readHeartbeat env o
  retried := neverRetried
  endpoint_ne := by decide
  replies := replies_heartbeatStream
  answered env s o _ := by
    by_cases ho : o.curlResult = .ok
    · by_cases h200 : o.responseCode = 200
      · simp only [ho, h200, ne_eq, not_true_eq_false, if_false, or_self, readBody_eq]
      · simp only [ho, h200, ne_eq, not_true_eq_false, if_false, not_false_eq_true, if_true,
          or_true]
        rfl
    · simp only [ho, ne_eq, not_false_eq_true, if_true, true_or]
      rfl

def trickleCall : AuthorizedCall Bool where
  endpoint := .trickle
  unreachable := retry false
  refused := false
  answer o := if o.responseCode = 200 then pure (complete true) else pure (retry false)
  empty := false
  reply _ o := .ok (if o.curlResult = .ok ∧ o.responseCode = 200 then complete true
    else retry false)
  retried := trickleRetried
  endpoint_ne := by decide
  replies := replies_trickleCandidates
  answered env s o _ := by
    by_cases ho : o.curlResult = .ok
    · by_cases h200 : o.responseCode = 200
      · simp [ho, h200, lift]
      · simp [ho, h200, lift]
    · simp [ho, lift]

def screenshotCall : AuthorizedCall Bool where
  endpoint := .screenshot
  unreachable := retry false
  refused := false
  answer o := if isSuccess o.responseCode then pure (complete true) else pure (retry false)
  empty := false
  reply _ o := .ok (if o.curlResult = .ok ∧ isSuccess o.responseCode then complete true
    else retry false)
  retried := failureRetried
  endpoint_ne := by decide
  replies := replies_updateScreenshot
  answered env s o _ := by
    by_cases ho : o.curlResult = .ok
    · cases hsuccess : isSuccess o.responseCode with
      | true => simp [ho, lift]
      | false => simp [ho, lift]
    · simp [ho, lift]

def graphqlCall : AuthorizedCall (Option Json) where
  endpoint := .graphql
  unreachable := retry none
  refused := none
  answer o :=
    if isSuccess o.responseCode then do
      let parsed ← parseBody o
      pure (complete parsed)
    else pure (retry none)
  empty := none
  reply env o := .ok (if o.curlResult = .ok ∧ isSuccess o.responseCode
    then complete (env.document o) else retry none)
  retried := failureRetried
  endpoint_ne := by decide
  replies := replies_graphqlRawRequest
  answered env s o _ := by
    by_cases ho : o.curlResult = .ok
    · cases hsuccess : isSuccess o.responseCode with
      | true => simp [ho, lift]
      | false => simp [ho, lift]
    · simp [ho, lift]

/-- **What the requests with credentials come to.**  Whatever the outcomes are, the first
exchange after which such a request does not go on is its last one and alone decides the
result; the exchanges with both endpoints and the credentials left behind are those up to
it.  A request that cannot be serialised makes none. -/
theorem wrappers_determined (env : Environment) (s : Session Credentials)
    (candidates : List IceInfo) (texts : List Bytes) :
    userInfoCall.Determines getUserInfo env s ∧
    heartbeatCall.Determines heartbeatStream env s ∧
    screenshotCall.Determines updateScreenshot env s ∧
    (if (trickleTexts candidates).all isUtf8 then
        trickleCall.Determines (trickleCandidates candidates) env s
      else ∀ d, trickleCandidates candidates d env s = (.error (.fault (.typeError 316)), s)) ∧
    (if texts.all isUtf8 then graphqlCall.Determines (graphqlRawRequest texts) env s
      else ∀ d, graphqlRawRequest texts d env s = (.error (.fault (.typeError 316)), s)) := by
  refine ⟨AuthorizedCall.determines_request, AuthorizedCall.determines_request,
    AuthorizedCall.determines_request, ?_, ?_⟩
  · by_cases htexts : (trickleTexts candidates).all isUtf8 = true
    · rw [if_pos htexts]
      exact AuthorizedCall.determines_dump htexts
    · rw [if_neg htexts]
      intro d
      apply retryRequest_apply_of_error
      rw [doTrickleCandidates, dump, if_neg htexts]
      rfl
  · by_cases htexts : texts.all isUtf8 = true
    · rw [if_pos htexts]
      exact AuthorizedCall.determines_dump htexts
    · rw [if_neg htexts]
      intro d
      apply retryRequest_apply_of_error
      rw [doGraphqlRawRequest, dump, if_neg htexts]
      rfl

end Caff
