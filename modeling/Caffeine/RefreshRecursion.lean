/-
# When the recursion on a status 401 ends

`doGetUserInfo`, `doTrickleCandidates`, `doHeartbeatStream`, `doUpdateScreenshot` and
`doGraphqlRawRequest` answer a status 401 by refreshing the shared credentials and, if
that succeeds, calling themselves.  `retryRequest` bounds the number of tries, but
nothing bounds the calls within a try.  `Endless` says of the outcomes of the two
endpoints that they keep such a request going; `finishes_authorizedRequest_iff` shows
that nothing else does.
-/
import Caffeine.RestApiReturns

namespace Caff

open Http

variable {σ T α : Type}

/-! ## Coming to an end -/

/-- The request comes to an end, by returning or by throwing: from some depth on, the
model follows its recursion to the same result. -/
def Finishes (request : ℕ → Http σ α) (env : Environment) (s : Session σ) : Prop :=
  ∃ depth r, r.1 ≠ .error .outOfDepth ∧ ∀ d, depth ≤ d → request d env s = r

/-- Whatever the depth, the model does not see the end of the request. -/
def NeverEnds (request : ℕ → Http σ α) (env : Environment) (s : Session σ) : Prop :=
  ∀ d, (request d env s).1 = .error .outOfDepth

theorem NeverEnds.not_finishes {request : ℕ → Http σ α} {env : Environment} {s : Session σ}
    (h : NeverEnds request env s) : ¬ Finishes request env s := by
  rintro ⟨depth, r, hr, hd⟩
  rw [← hd depth le_rfl] at hr
  exact hr (h depth)

/-! ## Outcomes that keep a request going -/

instance : DecidablePred Unauthorized := fun o =>
  inferInstanceAs (Decidable (o.curlResult = .ok ∧ o.responseCode = 401))

section

variable (env : Environment) (e : Endpoint) (retried : HttpOutcome → Bool)

/-- The number of refreshes before exchange `i` of a request that takes the outcomes
of `e` from `m` on. -/
def refreshesBefore (m i : ℕ) : ℕ :=
  (List.range i).countP fun k => Unauthorized (env.outcomes e (m + k))

/-- The number of exchanges up to exchange `i` that ask for another try. -/
def retriesThrough (m i : ℕ) : ℕ :=
  (List.range (i + 1)).countP fun k => retried (env.outcomes e (m + k))

/-- After exchange `i` there is another one: it was answered with 401 and the refresh
was granted, or it asked for another try and there is one left.  `used` tries have been
used before. -/
def GoesOn (used m n i : ℕ) : Prop :=
  Unauthorized (env.outcomes e (m + i)) ∧
      Granted env (env.outcomes .refreshToken (n + refreshesBefore env e m i)) ∨
    retried (env.outcomes e (m + i)) = true ∧
      used + retriesThrough env e retried m i < numRetries

/-- **The outcomes never let go of the request**: all its exchanges are answered with
401 and a granted refresh, but for at most two that ask for another try. -/
def Endless (m n : ℕ) : Prop := ∀ i, GoesOn env e retried 0 m n i

end

section

variable {env : Environment} {e : Endpoint} {retried : HttpOutcome → Bool} {used m n i : ℕ}

theorem refreshesBefore_succ : refreshesBefore env e m (i + 1) =
    refreshesBefore env e (m + 1) i +
      if Unauthorized (env.outcomes e m) then 1 else 0 := by
  rw [refreshesBefore, List.range_succ_eq_map, List.countP_cons, List.countP_map]
  simp only [refreshesBefore, Function.comp_def, Nat.add_zero, decide_eq_true_eq,
    Nat.succ_eq_add_one, Nat.add_right_comm m, ← Nat.add_assoc]

theorem retriesThrough_succ : retriesThrough env e retried m (i + 1) =
    retriesThrough env e retried (m + 1) i + if retried (env.outcomes e m) then 1 else 0 := by
  rw [retriesThrough, List.range_succ_eq_map, List.countP_cons, List.countP_map]
  simp only [retriesThrough, Function.comp_def, Nat.add_zero, Nat.succ_eq_add_one,
    Nat.add_right_comm m, ← Nat.add_assoc]

theorem goesOn_zero_iff : GoesOn env e retried used m n 0 ↔
    Unauthorized (env.outcomes e m) ∧ Granted env (env.outcomes .refreshToken n) ∨
      retried (env.outcomes e m) = true ∧ used + 1 < numRetries := by
  rw [GoesOn]
  refine or_congr Iff.rfl (and_congr_right fun hr => ?_)
  rw [Nat.add_zero] at hr
  simp [retriesThrough, hr]

/-- Past an exchange with a granted refresh both endpoints are one further. -/
theorem goesOn_succ_of_unauthorized (h : Unauthorized (env.outcomes e m))
    (hr : retried (env.outcomes e m) = false) :
    GoesOn env e retried used m n (i + 1) ↔ GoesOn env e retried used (m + 1) (n + 1) i := by
  rw [GoesOn, GoesOn, refreshesBefore_succ, retriesThrough_succ, if_pos h, hr]
  simp only [Bool.false_eq_true, if_false, Nat.add_zero, Nat.add_right_comm _ 1,
    ← Nat.add_assoc]

/-- Past an exchange that is tried again a try has been used. -/
theorem goesOn_succ_of_retried (h : ¬ Unauthorized (env.outcomes e m))
    (hr : retried (env.outcomes e m) = true) :
    GoesOn env e retried used m n (i + 1) ↔ GoesOn env e retried (used + 1) (m + 1) n i := by
  rw [GoesOn, GoesOn, refreshesBefore_succ, retriesThrough_succ, if_neg h, if_pos hr]
  simp only [Nat.add_zero, Nat.add_right_comm _ 1, ← Nat.add_assoc]

end

/-! ## One exchange -/

/-- The request for the rest of a try and of the tries after it: the recursion is
followed to depth `d` in this try and to depth `D` in the others. -/
def inTry (request : ℕ → Http σ (Retryable T)) (d D tries : ℕ) : Http σ (Retryable T) := do
  let retryable ← request d
  if isComplete retryable then pure retryable
  else retryLoop (request D) tries retryable

/-- What an authorized request makes of an outcome other than 401: a value that asks
for another try exactly if the outcome is one of `retried`, or an exception. -/
structure Replies (unreachable refused : Retryable T)
    (answer : HttpOutcome → Http Credentials (Retryable T)) (retried : HttpOutcome → Bool) :
    Prop where
  unauthorized : ∀ o, Unauthorized o → retried o = false
  refused : isComplete refused = true
  answered : ∀ env s o, ¬ Unauthorized o →
    (∃ r s', (if o.curlResult ≠ .ok then pure unreachable else answer o : Http Credentials _) env s
        = (.ok r, s') ∧ s'.asked = s.asked ∧ isComplete r = !retried o) ∨
    ∃ f s', (if o.curlResult ≠ .ok then pure unreachable else answer o : Http Credentials _) env s
        = (.error (.fault f), s') ∧ retried o = false

theorem Replies.not_unauthorized {unreachable refused : Retryable T}
    {answer : HttpOutcome → Http Credentials (Retryable T)} {retried : HttpOutcome → Bool}
    (h : Replies unreachable refused answer retried) {o : HttpOutcome} (hr : retried o = true) :
    ¬ Unauthorized o := by
  intro hu
  rw [h.unauthorized o hu] at hr
  cases hr

section

variable {e : Endpoint} {unreachable refused : Retryable T}
  {answer : HttpOutcome → Http Credentials (Retryable T)} {retried : HttpOutcome → Bool}
  {env : Environment} {s : Session Credentials}

/-- A refresh that brings nothing new comes to an end all the same. -/
theorem refreshCredentials_of_not_granted
    (hg : ¬ Granted env (env.outcomes .refreshToken (s.asked .refreshToken))) :
    refreshCredentials env s = (.ok false, s.ask .refreshToken) ∨
      ∃ f, refreshCredentials env s = (.error (.fault f), s.ask .refreshToken) := by
  by_cases hr : (env.outcomes .refreshToken (s.asked .refreshToken)).responseCode ≠ 401 →
      Readable env RefreshShape (env.outcomes .refreshToken (s.asked .refreshToken))
  · exact .inl (refreshCredentials_of_refused hg hr)
  · exact .inr (refreshCredentials_of_unreadable hr)

theorem inTry_of_granted (he : e ≠ .refreshToken)
    (h : Unauthorized (env.outcomes e (s.asked e)))
    (hg : Granted env (env.outcomes .refreshToken (s.asked .refreshToken))) :
    ∃ s' : Session Credentials, s'.asked e = s.asked e + 1 ∧
      s'.asked .refreshToken = s.asked .refreshToken + 1 ∧ ∀ d D tries,
        inTry (authorizedRequest e unreachable refused answer) (d + 1) D tries env s =
          inTry (authorizedRequest e unreachable refused answer) d D tries env s' := by
  have hask : (s.ask e).asked .refreshToken = s.asked .refreshToken :=
    Function.update_of_ne he.symm _ _
  rw [← hask] at hg
  obtain ⟨c, hc⟩ := refreshCredentials_of_granted hg
  refine ⟨{ (s.ask e).ask .refreshToken with state := c }, ?_, ?_, fun d D tries => ?_⟩
  · simp [Session.ask, he]
  · simp [Session.ask, he.symm]
  · rw [inTry, bind_apply, authorizedRequest_apply_of_unauthorized h, bind_apply_of_ok hc,
      if_pos rfl, inTry, bind_apply]

theorem inTry_of_not_granted (he : e ≠ .refreshToken) (hrefused : isComplete refused = true)
    (h : Unauthorized (env.outcomes e (s.asked e)))
    (hg : ¬ Granted env (env.outcomes .refreshToken (s.asked .refreshToken))) :
    ∃ r, r.1 ≠ .error .outOfDepth ∧ ∀ d D tries,
      inTry (authorizedRequest e unreachable refused answer) (d + 1) D tries env s = r := by
  have hask : (s.ask e).asked .refreshToken = s.asked .refreshToken :=
    Function.update_of_ne he.symm _ _
  rw [← hask] at hg
  rcases refreshCredentials_of_not_granted hg with hr | ⟨f, hr⟩
  · refine ⟨(.ok refused, (s.ask e).ask .refreshToken), by simp, fun d D tries => ?_⟩
    have hreq : authorizedRequest e unreachable refused answer (d + 1) env s =
        (.ok refused, (s.ask e).ask .refreshToken) := by
      rw [authorizedRequest_apply_of_unauthorized h, bind_apply_of_ok hr]
      rfl
    rw [inTry, bind_apply_of_ok hreq, if_pos hrefused, pure_apply]
  · refine ⟨(.error (.fault f), (s.ask e).ask .refreshToken), by simp, fun d D tries => ?_⟩
    have hreq : authorizedRequest e unreachable refused answer (d + 1) env s =
        (.error (.fault f), (s.ask e).ask .refreshToken) := by
      rw [authorizedRequest_apply_of_unauthorized h, bind_apply_of_error hr]
    rw [inTry, bind_apply_of_error hreq]

theorem inTry_of_retried (he : e ≠ .refreshToken)
    (hreplies : Replies unreachable refused answer retried)
    (h : ¬ Unauthorized (env.outcomes e (s.asked e)))
    (hr : retried (env.outcomes e (s.asked e)) = true) :
    ∃ r, ∃ s' : Session Credentials, s'.asked e = s.asked e + 1 ∧
      s'.asked .refreshToken = s.asked .refreshToken ∧ ∀ d D tries,
        inTry (authorizedRequest e unreachable refused answer) (d + 1) D tries env s =
          retryLoop (authorizedRequest e unreachable refused answer D) tries r env s' := by
  rcases hreplies.answered env (s.ask e) _ h with ⟨r, s', hx, hasked, hc⟩ | ⟨f, s', hx, hf⟩
  · refine ⟨r, s', by simp [hasked, Session.ask], by simp [hasked, Session.ask, he.symm],
      fun d D tries => ?_⟩
    have hreq : authorizedRequest e unreachable refused answer (d + 1) env s = (.ok r, s') := by
      rw [authorizedRequest_apply_of_answered h, hx]
    have hnot : ¬ isComplete r = true := by simp [hc, hr]
    rw [inTry, bind_apply_of_ok hreq, if_neg hnot]
  · rw [hr] at hf
    cases hf

theorem inTry_of_final (hreplies : Replies unreachable refused answer retried)
    (h : ¬ Unauthorized (env.outcomes e (s.asked e)))
    (hr : retried (env.outcomes e (s.asked e)) = false) :
    ∃ r, r.1 ≠ .error .outOfDepth ∧ ∀ d D tries,
      inTry (authorizedRequest e unreachable refused answer) (d + 1) D tries env s = r := by
  rcases hreplies.answered env (s.ask e) _ h with ⟨r, s', hx, -, hc⟩ | ⟨f, s', hx, -⟩
  · refine ⟨(.ok r, s'), by simp, fun d D tries => ?_⟩
    have hreq : authorizedRequest e unreachable refused answer (d + 1) env s = (.ok r, s') := by
      rw [authorizedRequest_apply_of_answered h, hx]
    have hcomplete : isComplete r = true := by simp [hc, hr]
    rw [inTry, bind_apply_of_ok hreq, if_pos hcomplete, pure_apply]
  · refine ⟨(.error (.fault f), s'), by simp, fun d D tries => ?_⟩
    have hreq : authorizedRequest e unreachable refused answer (d + 1) env s =
        (.error (.fault f), s') := by
      rw [authorizedRequest_apply_of_answered h, hx]
    rw [inTry, bind_apply_of_error hreq]

/-! ## All exchanges -/

/-- A request that does not go on after its first exchange comes to an end there. -/
theorem inTry_finishes_of_first (he : e ≠ .refreshToken)
    (hreplies : Replies unreachable refused answer retried) {used tries : ℕ}
    (hused : used + tries + 1 = numRetries)
    (hnot : ¬ GoesOn env e retried used (s.asked e) (s.asked .refreshToken) 0) :
    ∃ r, r.1 ≠ .error .outOfDepth ∧ ∀ d D,
      inTry (authorizedRequest e unreachable refused answer) (d + 1) D tries env s = r := by
  rw [goesOn_zero_iff, not_or] at hnot
  obtain ⟨hnot401, hnotRetried⟩ := hnot
  by_cases h : Unauthorized (env.outcomes e (s.asked e))
  · obtain ⟨r, hr, hd⟩ := inTry_of_not_granted he hreplies.refused h fun hg => hnot401 ⟨h, hg⟩
    exact ⟨r, hr, fun d D => hd d D tries⟩
  · rcases hretried : retried (env.outcomes e (s.asked e)) with _ | _
    · obtain ⟨r, hr, hd⟩ := inTry_of_final hreplies h hretried
      exact ⟨r, hr, fun d D => hd d D tries⟩
    · -- the last try, so the request is not made again
      have htries : tries = 0 := by
        rw [hretried, not_and] at hnotRetried
        have := hnotRetried rfl
        omega
      obtain ⟨r, s', -, -, hd⟩ := inTry_of_retried he hreplies h hretried
      refine ⟨(.ok r, s'), by simp, fun d D => ?_⟩
      rw [hd, htries]
      rfl

/-- **Outcomes that let go.**  A request that does not go on after some exchange comes
to an end. -/
theorem inTry_finishes (he : e ≠ .refreshToken)
    (hreplies : Replies unreachable refused answer retried) {i : ℕ} :
    ∀ (used tries : ℕ) {s : Session Credentials}, used + tries + 1 = numRetries →
      ¬ GoesOn env e retried used (s.asked e) (s.asked .refreshToken) i →
      ∃ depth r, r.1 ≠ .error .outOfDepth ∧ ∀ d D, depth ≤ d → depth ≤ D →
        inTry (authorizedRequest e unreachable refused answer) (d + 1) D tries env s = r := by
  -- the induction is on the exchange after which the request does not go on
  induction i with
  | zero =>
      intro used tries s hused hnot
      obtain ⟨r, hr, hd⟩ := inTry_finishes_of_first he hreplies hused hnot
      exact ⟨0, r, hr, fun d D _ _ => hd d D⟩
  | succ i ih =>
      intro used tries s hused hnot
      by_cases hfirst : GoesOn env e retried used (s.asked e) (s.asked .refreshToken) 0
      · rcases goesOn_zero_iff.mp hfirst with ⟨h, hg⟩ | ⟨hretried, hlt⟩
        · rw [goesOn_succ_of_unauthorized h (hreplies.unauthorized _ h)] at hnot
          obtain ⟨s', hm, hn, hd⟩ := inTry_of_granted he h hg
          rw [← hm, ← hn] at hnot
          obtain ⟨depth, r, hr, hrest⟩ := ih used tries hused hnot
          refine ⟨depth + 1, r, hr, fun d D hle hle' => ?_⟩
          rw [hd, ← Nat.sub_add_cancel (Nat.le_of_add_left_le hle)]
          exact hrest (d - 1) D (by omega) (by omega)
        · -- the next try begins
          obtain ⟨rest, rfl⟩ : ∃ rest, tries = rest + 1 := ⟨tries - 1, by omega⟩
          have h := hreplies.not_unauthorized hretried
          obtain ⟨r, s', hm, hn, hd⟩ := inTry_of_retried he hreplies h hretried
          rw [goesOn_succ_of_retried h hretried, ← hm, ← hn] at hnot
          obtain ⟨depth, r', hr', hrest⟩ := ih (used + 1) rest (by omega) hnot
          refine ⟨depth + 1, r', hr', fun d D hle hle' => ?_⟩
          rw [hd, ← Nat.sub_add_cancel (Nat.le_of_add_left_le hle')]
          exact hrest (D - 1) (D - 1 + 1) (by omega) (by omega)
      · obtain ⟨r, hr, hd⟩ := inTry_finishes_of_first he hreplies hused hfirst
        exact ⟨0, r, hr, fun d D _ _ => hd d D⟩

/-- **Outcomes that do not.**  If the request goes on after every exchange, no depth
sees its end. -/
theorem inTry_outOfDepth (he : e ≠ .refreshToken)
    (hreplies : Replies unreachable refused answer retried) (tries D : ℕ) :
    ∀ (used d : ℕ) {s : Session Credentials}, used + tries + 1 = numRetries →
      (∀ i, GoesOn env e retried used (s.asked e) (s.asked .refreshToken) i) →
      (inTry (authorizedRequest e unreachable refused answer) d D tries env s).1 =
        .error .outOfDepth := by
  -- the inductions are on the tries left and, within a try, on the depth
  induction tries using Nat.strong_induction_on with
  | h tries ihTries =>
      intro used d
      induction d with
      | zero =>
          intro s _ _
          rfl
      | succ d ih =>
          intro s hused hall
          rcases goesOn_zero_iff.mp (hall 0) with ⟨h, hg⟩ | ⟨hretried, hlt⟩
          · obtain ⟨s', hm, hn, hd⟩ := inTry_of_granted he h hg
            rw [hd]
            apply ih hused
            intro i
            rw [hm, hn, ← goesOn_succ_of_unauthorized h (hreplies.unauthorized _ h)]
            exact hall (i + 1)
          · obtain ⟨rest, rfl⟩ : ∃ rest, tries = rest + 1 := ⟨tries - 1, by omega⟩
            have h := hreplies.not_unauthorized hretried
            obtain ⟨r, s', hm, hn, hd⟩ := inTry_of_retried he hreplies h hretried
            rw [hd]
            apply ihTries rest (by omega) (used + 1) D (by omega)
            intro i
            rw [hm, hn, ← goesOn_succ_of_retried h hretried]
            exact hall (i + 1)

/-- **When an authorized request comes to an end.** -/
theorem finishes_authorizedRequest_iff (he : e ≠ .refreshToken)
    (hreplies : Replies unreachable refused answer retried) (empty : T) :
    (Finishes (fun d => retryRequest empty (authorizedRequest e unreachable refused answer d))
        env s ↔ ¬ Endless env e retried (s.asked e) (s.asked .refreshToken)) ∧
    (Endless env e retried (s.asked e) (s.asked .refreshToken) →
      NeverEnds (fun d => retryRequest empty (authorizedRequest e unreachable refused answer d))
        env s) := by
  have hnever : Endless env e retried (s.asked e) (s.asked .refreshToken) →
      NeverEnds (fun d => retryRequest empty (authorizedRequest e unreachable refused answer d))
        env s := by
    intro hall d
    have hloop := inTry_outOfDepth he hreplies 2 d 0 d rfl hall
    rcases hr : inTry (authorizedRequest e unreachable refused answer) d d 2 env s with ⟨r, s'⟩
    rw [hr] at hloop
    have hloop : r = .error .outOfDepth := hloop
    have hr : retryLoop (authorizedRequest e unreachable refused answer d) numRetries
        (retry empty) env s = (.error .outOfDepth, s') := by
      rw [← hloop, ← hr]
      rfl
    show (retryRequest empty (authorizedRequest e unreachable refused answer d) env s).1 = _
    rw [retryRequest, bind_apply_of_error hr]
  refine ⟨⟨fun hfin hall => (hnever hall).not_finishes hfin, fun hnot => ?_⟩, hnever⟩
  obtain ⟨i, hi⟩ := not_forall.mp hnot
  obtain ⟨depth, ⟨r, s'⟩, hr, hd⟩ := inTry_finishes he hreplies 0 2 rfl hi
  have hloop : ∀ d, depth + 1 ≤ d →
      retryLoop (authorizedRequest e unreachable refused answer d) numRetries (retry empty) env s =
        (r, s') := by
    intro d hle
    rw [← hd (d - 1) d (by omega) (by omega), Nat.sub_add_cancel (Nat.le_of_add_left_le hle)]
    rfl
  rcases r with f | r
  · have hf : f ≠ .outOfDepth := fun hf => hr (by rw [hf])
    refine ⟨depth + 1, (.error f, s'), by simp [hf], fun d hle => ?_⟩
    exact bind_apply_of_error (hloop d hle)
  · refine ⟨depth + 1, (.ok r.result, s'), by simp, fun d hle => ?_⟩
    exact bind_apply_of_ok (hloop d hle)

end

/-! ## The five requests -/

/-- Never asks for another try. -/
def neverRetried (_ : HttpOutcome) : Bool := false

/-- What `doTrickleCandidates` asks for another try after. -/
def trickleRetried (o : HttpOutcome) : Bool :=
  o.curlResult ≠ .ok ∨ (o.responseCode ≠ 200 ∧ o.responseCode ≠ 401)

/-- What `doUpdateScreenshot` and `doGraphqlRawRequest` ask for another try after. -/
def failureRetried (o : HttpOutcome) : Bool :=
  o.curlResult ≠ .ok ∨ (isSuccess o.responseCode = false ∧ o.responseCode ≠ 401)

/-- A request that never asks for another try, and whose answer leaves the exchanges
alone. -/
theorem replies_readBody {answer : HttpOutcome → Http Credentials (Retryable (Option α))}
    (hanswer : ∀ o, answer o = pure (complete none) ∨
      ∃ walk, WalkCompletes walk ∧ answer o = readBody o (complete none) walk) :
    Replies (complete none) (complete none) answer neverRetried := by
  refine ⟨fun _ _ => rfl, rfl, fun env s o _ => ?_⟩
  by_cases ho : o.curlResult = .ok
  · rw [if_neg (not_not.mpr ho)]
    rcases hanswer o with h | ⟨walk, hwalk, h⟩
    · rw [h]
      exact .inl ⟨_, _, rfl, rfl, rfl⟩
    · rw [h, readBody, parseBody_bind_apply]
      rcases env.document o with _ | j
      · exact .inl ⟨_, _, rfl, rfl, rfl⟩
      · rcases hw : walk j with f | r
        · refine .inr ⟨f, s, ?_, rfl⟩
          simp only [hw, lift_error]
        · refine .inl ⟨r, s, ?_, rfl, hwalk j r hw⟩
          simp only [hw, lift_ok]
  · rw [if_pos ho]
    exact .inl ⟨_, _, rfl, rfl, rfl⟩

theorem replies_getUserInfo : Replies (complete none) (complete none)
    (fun o => readBody o (complete none) readUserInfo) neverRetried :=
  replies_readBody fun _ => .inr ⟨_, walkCompletes_readUserInfo, rfl⟩

theorem replies_heartbeatStream : Replies (complete none) (complete none)
    (fun o => if o.responseCode ≠ 200 then pure (complete none)
      else readBody o (complete none) readHeartbeat) neverRetried := by
  apply replies_readBody
  intro o
  by_cases h : o.responseCode = 200
  · exact .inr ⟨_, walkCompletes_readHeartbeat, if_neg (not_not.mpr h)⟩
  · exact .inl (if_pos h)

theorem replies_trickleCandidates : Replies (retry false) (complete false)
    (fun o => if o.responseCode = 200 then pure (complete true) else pure (retry false))
    trickleRetried := by
  refine ⟨fun o h => by simp [trickleRetried, h.1, h.2], rfl, fun env s o h => .inl ?_⟩
  by_cases ho : o.curlResult = .ok
  · have h401 : o.responseCode ≠ 401 := fun h401 => h ⟨ho, h401⟩
    rw [if_neg (not_not.mpr ho)]
    by_cases h200 : o.responseCode = 200
    · rw [if_pos h200]
      exact ⟨_, _, rfl, rfl, by simp [trickleRetried, ho, h200, isComplete, complete]⟩
    · rw [if_neg h200]
      exact ⟨_, _, rfl, rfl, by simp [trickleRetried, ho, h200, h401, isComplete, retry]⟩
  · rw [if_pos ho]
    exact ⟨_, _, rfl, rfl, by simp [trickleRetried, ho, isComplete, retry]⟩

/-- A request that is tried again unless its answer is a success. -/
theorem replies_of_isSuccess {refused v : T}
    {answer : HttpOutcome → Http Credentials (Retryable T)}
    (hok : ∀ env s o, isSuccess o.responseCode = true →
      ∃ w, answer o env s = (.ok (complete w), s))
    (hfail : ∀ o, isSuccess o.responseCode = false → answer o = pure (retry v)) :
    Replies (retry v) (complete refused) answer failureRetried := by
  refine ⟨fun o h => by simp [failureRetried, h.1, h.2], rfl, fun env s o h => .inl ?_⟩
  by_cases ho : o.curlResult = .ok
  · have h401 : o.responseCode ≠ 401 := fun h401 => h ⟨ho, h401⟩
    rw [if_neg (not_not.mpr ho)]
    rcases hsuccess : isSuccess o.responseCode with _ | _
    · rw [hfail o hsuccess]
      exact ⟨_, _, rfl, rfl, by simp [failureRetried, hsuccess, h401, isComplete, retry]⟩
    · obtain ⟨w, hw⟩ := hok env s o hsuccess
      exact ⟨_, _, hw, rfl, by simp [failureRetried, ho, hsuccess, isComplete, complete]⟩
  · rw [if_pos ho]
    exact ⟨_, _, rfl, rfl, by simp [failureRetried, ho, isComplete, retry]⟩

theorem replies_updateScreenshot : Replies (retry false) (complete false)
    (fun o => if isSuccess o.responseCode then pure (complete true) else pure (retry false))
    failureRetried :=
  replies_of_isSuccess (fun env s o h => ⟨true, by rw [if_pos h, pure_apply]⟩)
    fun o h => if_neg (by rw [h]; simp)

theorem replies_graphqlRawRequest : Replies (retry none) (complete none)
    (fun o =>
      if isSuccess o.responseCode then do
        let parsed ← parseBody o
        pure (complete parsed)
      else pure (retry none)) failureRetried :=
  replies_of_isSuccess
    (fun env s o h => ⟨env.document o, by rw [if_pos h, parseBody_bind_apply, pure_apply]⟩)
    fun o h => if_neg (by rw [h]; simp)

/-- A request whose body is serialised first comes to an end if that throws. -/
theorem finishes_dump_iff {texts : List Bytes} {empty : T}
    {request : ℕ → Http σ (Retryable T)} {env : Environment} {s : Session σ} {P : Prop}
    (h : Finishes (fun d => retryRequest empty (request d)) env s ↔ ¬ P) :
    Finishes (fun d => retryRequest empty (lift (dump texts) >>= fun _ => request d)) env s ↔
      ¬ (texts.all isUtf8 = true ∧ P) := by
  rcases hdump : dump texts with f | u
  · have hnot : ¬ texts.all isUtf8 = true := by
      rw [← returns_dump_iff, hdump]
      simp
    refine iff_of_true ⟨0, (.error (.fault f), s), by simp, fun d _ => ?_⟩ fun h => hnot h.1
    exact retryRequest_apply_of_error rfl
  · have hall : texts.all isUtf8 = true := by
      rw [← returns_dump_iff, hdump]
      simp
    rw [hall, eq_self, true_and]
    exact h

/-- **When the requests that refresh come to an end.**  From any point of a session,
each of the five wrappers comes to an end exactly if the outcomes of its endpoint and
of the refreshes are not endless for it. -/
theorem wrappers_finish_iff (env : Environment) (s : Session Credentials)
    (candidates : List IceInfo) (texts : List Bytes) :
    (Finishes getUserInfo env s ↔
      ¬ Endless env .user neverRetried (s.asked .user) (s.asked .refreshToken)) ∧
    (Finishes (trickleCandidates candidates) env s ↔
      ¬ ((trickleTexts candidates).all isUtf8 = true ∧
        Endless env .trickle trickleRetried (s.asked .trickle) (s.asked .refreshToken))) ∧
    (Finishes heartbeatStream env s ↔
      ¬ Endless env .heartbeat neverRetried (s.asked .heartbeat) (s.asked .refreshToken)) ∧
    (Finishes updateScreenshot env s ↔
      ¬ Endless env .screenshot failureRetried (s.asked .screenshot) (s.asked .refreshToken)) ∧
    (Finishes (graphqlRawRequest texts) env s ↔
      ¬ (texts.all isUtf8 = true ∧
        Endless env .graphql failureRetried (s.asked .graphql) (s.asked .refreshToken))) := by
  refine ⟨?_, ?_, ?_, ?_, ?_⟩
  · exact (finishes_authorizedRequest_iff (by decide) replies_getUserInfo none).1
  · exact finishes_dump_iff
      (finishes_authorizedRequest_iff (by decide) replies_trickleCandidates false).1
  · exact (finishes_authorizedRequest_iff (by decide) replies_heartbeatStream none).1
  · exact (finishes_authorizedRequest_iff (by decide) replies_updateScreenshot false).1
  · exact finishes_dump_iff
      (finishes_authorizedRequest_iff (by decide) replies_graphqlRawRequest none).1

/-! ## A server that grants every refresh -/

def grantedBody : Bytes :=
  toBytes ("\x7b\"credentials\":\x7b\"access_token\":\"A\",\"refresh_token\":\"R\"," ++
    "\"caid\":\"C\",\"credential\":\"D\"\x7d\x7d")

def grantedDocument : Json :=
  .object [("credentials", .object [("access_token", .string "A"), ("refresh_token", .string "R"),
    ("caid", .string "C"), ("credential", .string "D")])]

/-- A server that answers every request with 401 and grants every refresh. -/
def alwaysUnauthorized : Environment where
  clientType := toBytes "OBS"
  clientVersion := toBytes "24.0"
  outcomes e _ := if e = .refreshToken then ⟨.ok, 200, grantedBody⟩ else ⟨.ok, 401, []⟩
  parse body := if body = grantedBody then some grantedDocument else none

theorem endless_alwaysUnauthorized {e : Endpoint} (he : e ≠ .refreshToken)
    (retried : HttpOutcome → Bool) (m n : ℕ) : Endless alwaysUnauthorized e retried m n := by
  have hrefresh : ∀ k, alwaysUnauthorized.outcomes .refreshToken k = ⟨.ok, 200, grantedBody⟩ :=
    fun _ => rfl
  have hrequest : ∀ k, alwaysUnauthorized.outcomes e k = ⟨.ok, 401, []⟩ := fun _ => if_neg he
  have hparse : alwaysUnauthorized.document ⟨.ok, 200, grantedBody⟩ = some grantedDocument := by
    simp only [alwaysUnauthorized, Environment.document, if_true]
  intro i
  refine .inl ⟨?_, ?_⟩
  · rw [hrequest]
    exact ⟨rfl, rfl⟩
  · rw [hrefresh]
    refine ⟨rfl, by decide, grantedDocument, _, hparse, rfl, rfl, ?_⟩
    exact ⟨⟨_, rfl, _, rfl⟩, ⟨_, rfl, _, rfl⟩, ⟨_, rfl, _, rfl⟩, _, rfl, _, rfl⟩

/-- With this server none of the five comes to an end. -/
theorem not_wrappers_finish_alwaysUnauthorized :
    NeverEnds getUserInfo alwaysUnauthorized (.start ⟨"A", "R", "C", "D"⟩) ∧
    NeverEnds (trickleCandidates []) alwaysUnauthorized (.start ⟨"A", "R", "C", "D"⟩) ∧
    NeverEnds heartbeatStream alwaysUnauthorized (.start ⟨"A", "R", "C", "D"⟩) ∧
    NeverEnds updateScreenshot alwaysUnauthorized (.start ⟨"A", "R", "C", "D"⟩) ∧
    NeverEnds (graphqlRawRequest []) alwaysUnauthorized (.start ⟨"A", "R", "C", "D"⟩) ∧
    ¬ ∀ (env : Environment) (s : Session Credentials) (candidates : List IceInfo)
        (texts : List Bytes),
      Finishes getUserInfo env s ∧ Finishes (trickleCandidates candidates) env s ∧
        Finishes heartbeatStream env s ∧ Finishes updateScreenshot env s ∧
        Finishes (graphqlRawRequest texts) env s := by
  have huser : NeverEnds getUserInfo alwaysUnauthorized (.start ⟨"A", "R", "C", "D"⟩) :=
    (finishes_authorizedRequest_iff (by decide) replies_getUserInfo none).2
      (endless_alwaysUnauthorized (by decide) _ _ _)
  refine ⟨huser, ?_, ?_, ?_, ?_, fun h => huser.not_finishes (h _ _ [] []).1⟩
  · exact (finishes_authorizedRequest_iff (by decide) replies_trickleCandidates false).2
      (endless_alwaysUnauthorized (by decide) _ _ _)
  · exact (finishes_authorizedRequest_iff (by decide) replies_heartbeatStream none).2
      (endless_alwaysUnauthorized (by decide) _ _ _)
  · exact (finishes_authorizedRequest_iff (by decide) replies_updateScreenshot false).2
      (endless_alwaysUnauthorized (by decide) _ _ _)
  · exact (finishes_authorizedRequest_iff (by decide) replies_graphqlRawRequest none).2
      (endless_alwaysUnauthorized (by decide) _ _ _)

end Caff
