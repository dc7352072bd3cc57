/-
# A request among those of other threads

The functions of `RestApi.lean` are sequential: they are about a call that has the
credentials to itself.  Among the calls of other threads, which refresh the credentials and
have them refreshed under their hands, a call still makes the exchanges that it would make
alone and comes to the same result.
-/
import Caffeine.SharedRequests

namespace Caff

open Http

/-! ## What is read from the environment -/

section

variable {env env' : Environment} {o : HttpOutcome}

/-- The parser alone decides what a body says, -/
theorem document_congr (h : env'.parse = env.parse) : env'.document o = env.document o := by
  rw [Environment.document, Environment.document, h]

/-- what a refresh brings, -/
theorem refreshAnswer_congr (h : env'.parse = env.parse) :
    refreshAnswer env' o = refreshAnswer env o := by
  rw [refreshAnswer, refreshAnswer, document_congr h]

/-- and what a request makes of its answer. -/
theorem bodyReply_congr {α : Type} {walk : Json → Json.Access (Retryable (Option α))}
    (h : env'.parse = env.parse) : bodyReply walk env' o = bodyReply walk env o := by
  rw [bodyReply, bodyReply, document_congr h]

/-- The replies of the requests depend on the parser only. -/
theorem RequestFunction.reply_congr (f : RequestFunction) (h : env'.parse = env.parse) :
    f.call.reply env' o = f.call.reply env o := by
  cases f with
  | getUserInfo =>
      show (if _ then _ else bodyReply readUserInfo env' o) = _
      rw [bodyReply_congr h]
      rfl
  | trickleCandidates candidates => rfl
  | heartbeatStream =>
      show (if _ then _ else bodyReply readHeartbeat env' o) = _
      rw [bodyReply_congr h]
      rfl
  | updateScreenshot => rfl
  | graphqlRawRequest texts =>
      show Except.ok (if _ then complete (env'.document o) else _) = _
      rw [document_congr h]
      rfl

end

/-- A request whose texts can be serialised is its call. -/
theorem RequestFunction.body_of_isUtf8 {f : RequestFunction} (h : f.texts.all isUtf8 = true) :
    f.body = f.call.request := by
  have hdump : dump f.texts = .ok () := by
    rw [dump, if_pos h]
  cases f with
  | getUserInfo => rfl
  | trickleCandidates candidates =>
      funext d
      show retryRequest false (lift (dump (RequestFunction.trickleCandidates candidates).texts) >>=
        fun _ => trickleCall.once d) = _
      rw [hdump]
      rfl
  | heartbeatStream => rfl
  | updateScreenshot => rfl
  | graphqlRawRequest texts =>
      funext d
      show retryRequest none (lift (dump (RequestFunction.graphqlRawRequest texts).texts) >>=
        fun _ => graphqlCall.once d) = _
      rw [hdump]
      rfl

/-- One whose texts cannot makes no exchange. -/
theorem RequestFunction.body_of_not_isUtf8 {f : RequestFunction}
    (h : ¬ f.texts.all isUtf8 = true) (d : ℕ) (env : Environment) (s : Session Credentials) :
    f.body d env s = (.error (.fault (.typeError 316)), s) := by
  have hdump : dump f.texts = .error (.typeError 316) := by
    rw [dump, if_neg h]
  cases f with
  | getUserInfo => exact absurd rfl h
  | heartbeatStream => exact absurd rfl h
  | updateScreenshot => exact absurd rfl h
  | trickleCandidates candidates =>
      apply retryRequest_apply_of_error
      show (lift (dump (RequestFunction.trickleCandidates candidates).texts) >>= _) env s = _
      rw [hdump]
      rfl
  | graphqlRawRequest texts =>
      apply retryRequest_apply_of_error
      show (lift (dump (RequestFunction.graphqlRawRequest texts).texts) >>= _) env s = _
      rw [hdump]
      rfl

/-! ## How far a request has come -/

namespace AuthorizedCall

variable {T : Type} {call : AuthorizedCall T} {env : Environment} {n m used : ℕ}

/-- A 401 is followed by a refresh, -/
theorem refreshesBefore_snoc {e : Endpoint} : refreshesBefore env e m (n + 1) =
    refreshesBefore env e m n + if Unauthorized (env.outcomes e (m + n)) then 1 else 0 := by
  simp [refreshesBefore, List.range_succ, List.countP_append, List.countP_cons]

/-- and what asks for another try by one. -/
theorem retriesBefore_snoc : call.retriesBefore env m (n + 1) =
    call.retriesBefore env m n +
      if call.retried (env.outcomes call.endpoint (m + n)) then 1 else 0 := by
  simp [retriesBefore, List.range_succ, List.countP_append, List.countP_cons]

/-- The call has gone on after its first `n` exchanges, with `m` refreshes and `used` tries. -/
structure Through (call : AuthorizedCall T) (env : Environment) (n m used : ℕ) : Prop where
  before : ∀ k < n, GoesOn env call.endpoint call.retried 0 0 0 k
  refreshes : m = refreshesBefore env call.endpoint 0 n
  retries : used = call.retriesBefore env 0 n

/-- A call begins after no exchange. -/
theorem through_zero : call.Through env 0 0 0 where
  before k hk := absurd hk (Nat.not_lt_zero k)
  refreshes := rfl
  retries := rfl

/-- A call that has gone on has a try left. -/
theorem Through.used_lt (h : call.Through env n m used) : used < numRetries := by
  have hbefore : ∀ j < n, call.goesOn env (.start ⟨"", "", "", ""⟩) j := h.before
  rw [h.retries]
  exact (exchanges_eq hbefore).2

/-- It goes on after a 401 whose refresh is granted, and after an exchange that asks for a try
which is left. -/
theorem Through.goesOn_iff (h : call.Through env n m used) :
    GoesOn env call.endpoint call.retried 0 0 0 n ↔
      Unauthorized (env.outcomes call.endpoint n) ∧ Granted env (env.outcomes .refreshToken m) ∨
        call.retried (env.outcomes call.endpoint n) = true ∧ used + 1 < numRetries := by
  have hthrough : retriesThrough env call.endpoint call.retried 0 n =
      call.retriesBefore env 0 (n + 1) := rfl
  rw [GoesOn, hthrough, retriesBefore_snoc, ← h.refreshes, ← h.retries]
  simp only [Nat.zero_add]
  refine or_congr Iff.rfl (and_congr_right ?_)
  intro hretried
  rw [if_pos hretried]

/-- Past an exchange after which it goes on. -/
theorem Through.before_succ (h : call.Through env n m used)
    (hgoes : GoesOn env call.endpoint call.retried 0 0 0 n) :
    ∀ k < n + 1, GoesOn env call.endpoint call.retried 0 0 0 k := by
  intro k hk
  rcases Nat.lt_succ_iff_lt_or_eq.mp hk with hlt | rfl
  · exact h.before k hlt
  · exact hgoes

/-- Past a refresh that is granted, -/
theorem Through.refreshed (h : call.Through env n m used)
    (hunauthorized : Unauthorized (env.outcomes call.endpoint n))
    (hgranted : Granted env (env.outcomes .refreshToken m)) :
    call.Through env (n + 1) (m + 1) used where
  before := h.before_succ (h.goesOn_iff.mpr (.inl ⟨hunauthorized, hgranted⟩))
  refreshes := by
    rw [refreshesBefore_snoc, Nat.zero_add, if_pos hunauthorized, ← h.refreshes]
  retries := by
    rw [retriesBefore_snoc, Nat.zero_add, call.replies.unauthorized _ hunauthorized, ← h.retries]
    rfl

/-- and into another try. -/
theorem Through.retried (h : call.Through env n m used)
    (hretried : call.retried (env.outcomes call.endpoint n) = true)
    (hused : used + 1 < numRetries) : call.Through env (n + 1) m (used + 1) where
  before := h.before_succ (h.goesOn_iff.mpr (.inr ⟨hretried, hused⟩))
  refreshes := by
    rw [refreshesBefore_snoc, Nat.zero_add, if_neg (call.replies.not_unauthorized hretried),
      Nat.add_zero, ← h.refreshes]
  retries := by
    rw [retriesBefore_snoc, Nat.zero_add, if_pos hretried, ← h.retries]

/-- The call has ended with exchange `n` and the result `r`, after `m` refreshes in all. -/
structure EndsAt (call : AuthorizedCall T) (env : Environment) (n m : ℕ) (r : Json.Access T) :
    Prop where
  before : ∀ k < n, GoesOn env call.endpoint call.retried 0 0 0 k
  last : ¬ GoesOn env call.endpoint call.retried 0 0 0 n
  refreshes : m = refreshesBefore env call.endpoint 0 (n + 1)
  result : r = (fun v => v.result) <$> call.verdict env (env.outcomes call.endpoint n)
    (env.outcomes .refreshToken (refreshesBefore env call.endpoint 0 n))

/-- The end with a refresh that brings nothing. -/
theorem Through.endsAt_refused (h : call.Through env n m used)
    (hunauthorized : Unauthorized (env.outcomes call.endpoint n)) {x : Json.Access Unit}
    (hanswer : refreshAnswer env (env.outcomes .refreshToken m) = (fun _ => none) <$> x) :
    call.EndsAt env n (m + 1) ((fun _ => call.refused) <$> x) where
  before := h.before
  last := by
    rw [h.goesOn_iff, call.replies.unauthorized _ hunauthorized, granted_iff, hanswer]
    cases x with
    | error fault => simp [Functor.map, Except.map]
    | ok u => simp [Functor.map, Except.map]
  refreshes := by
    rw [refreshesBefore_snoc, Nat.zero_add, if_pos hunauthorized, ← h.refreshes]
  result := by
    rw [verdict_of_unauthorized hunauthorized, ← h.refreshes, hanswer]
    cases x with
    | error fault => rfl
    | ok u => rfl

/-- The end with an exchange that is answered. -/
theorem Through.endsAt_answered (h : call.Through env n m used)
    (hanswered : ¬ Unauthorized (env.outcomes call.endpoint n))
    (hlast : call.retried (env.outcomes call.endpoint n) = true → used + 1 = numRetries) :
    call.EndsAt env n m
      ((fun v => v.result) <$> call.reply env (env.outcomes call.endpoint n)) where
  before := h.before
  last := by
    rw [h.goesOn_iff]
    rintro (⟨hunauthorized, -⟩ | ⟨hretried, hused⟩)
    · exact hanswered hunauthorized
    · have := hlast hretried
      omega
  refreshes := by
    rw [refreshesBefore_snoc, Nat.zero_add, if_neg hanswered, Nat.add_zero, ← h.refreshes]
  result := by
    rw [verdict_of_answered hanswered]

/-- **A call that has ended** is the request of `RestApi`. -/
theorem EndsAt.request {r : Json.Access T} (h : call.EndsAt env n m r) (c : Credentials) :
    ∃ depth, ∀ d, depth ≤ d → call.request d env (.start c) =
      lift r env ⟨Function.update (Function.update (fun _ => 0) call.endpoint (n + 1))
        .refreshToken m, Caff.refreshed env 0 m c⟩ := by
  have hbefore : ∀ j < n, call.goesOn env (.start c) j := h.before
  have hlast : ¬ call.goesOn env (.start c) n := h.last
  obtain ⟨depth, hd⟩ := request_apply hbefore hlast
  have hresult : call.result env (.start c) n = r := by
    rw [h.result, AuthorizedCall.result]
    simp only [Session.start, Nat.zero_add]
  have hafter : call.after env (.start c) (n + 1) =
      ⟨Function.update (Function.update (fun _ => 0) call.endpoint (n + 1)) .refreshToken m,
        Caff.refreshed env 0 m c⟩ := by
    rw [AuthorizedCall.after, h.refreshes]
    simp only [Session.start, Nat.zero_add]
  rw [hresult, hafter] at hd
  exact ⟨depth, hd⟩

end AuthorizedCall

/-- Where a request is that has made `n` exchanges and `m` refreshes. -/
def AuthorizedCall.Progress {T : Type} (call : AuthorizedCall T) (env : Environment)
    (phase : RequestPhase T) (n m : ℕ) : Prop :=
  match phase with
  | .ready used | .addressing used _ | .asking used _ => call.Through env n m used
  | .refreshing used | .presenting used _ =>
      ∃ k, n = k + 1 ∧ call.Through env k m used ∧ Unauthorized (env.outcomes call.endpoint k)
  | .granted used c =>
      ∃ k l, n = k + 1 ∧ m = l + 1 ∧ call.Through env k l used ∧
        Unauthorized (env.outcomes call.endpoint k) ∧
        refreshAnswer env (env.outcomes .refreshToken l) = .ok (some c)
  | .ended r => ∃ k, n = k + 1 ∧ call.EndsAt env k m r

/-- Where a call of `refreshCredentials` is that has made `m` refreshes. -/
def RefreshProgress (env : Environment) (phase : RequestPhase Bool) (m : ℕ) : Prop :=
  match phase with
  | .refreshing _ | .presenting _ _ => m = 0
  | .granted _ c => m = 1 ∧ refreshAnswer env (env.outcomes .refreshToken 0) = .ok (some c)
  | .ended r =>
      m = 1 ∧ r = Option.isSome <$> refreshAnswer env (env.outcomes .refreshToken 0)
  | _ => False

namespace SharedFunction

/-- Where a call is that has made `n` exchanges and `m` refreshes.  One that cannot serialise
its texts makes none. -/
def Progress (env : Environment) :
    (f : SharedFunction) → RequestPhase f.Result → ℕ → ℕ → Prop
  | request f, phase, n, m =>
      if f.texts.all isUtf8 then f.call.Progress env phase n m
      else n = 0 ∧ m = 0 ∧ (phase = .ready 0 ∨ phase = .ended (.error (.typeError 316)))
  | refreshCredentials, phase, n, m => n = 0 ∧ RefreshProgress env phase m

section

variable {env env' : Environment} {f : SharedFunction} {phase : RequestPhase f.Result}
  {used n m : ℕ} {o : HttpOutcome} {c : Credentials}

/-- A request that is under way has serialised its texts. -/
theorem Progress.call {g : RequestFunction} {phase : RequestPhase (request g).Result}
    (h : (request g).Progress env phase n m) (hunderWay : phase.UnderWay) :
    g.texts.all isUtf8 = true ∧ g.call.Progress env phase n m := by
  by_cases htexts : g.texts.all isUtf8 = true
  · rw [Progress.eq_def] at h
    simp only [htexts, if_true] at h
    exact ⟨htexts, h⟩
  · rw [Progress.eq_def] at h
    simp only [htexts, Bool.false_eq_true, if_false] at h
    rcases h with ⟨-, -, rfl | rfl⟩
    · exact hunderWay.elim
    · exact hunderWay.elim

/-- And back. -/
theorem progress_request {g : RequestFunction} {phase : RequestPhase (request g).Result}
    (htexts : g.texts.all isUtf8 = true) (h : g.call.Progress env phase n m) :
    (request g).Progress env phase n m := by
  rw [Progress.eq_def]
  simp only [htexts, if_true]
  exact h

/-- A call begins with no exchange behind it. -/
theorem progress_begin : f.Progress env f.begin 0 0 := by
  cases f with
  | request f =>
      by_cases htexts : f.texts.all isUtf8 = true
      · rw [Progress, if_pos htexts]
        exact AuthorizedCall.through_zero
      · rw [Progress, if_neg htexts]
        exact ⟨rfl, rfl, .inl rfl⟩
  | refreshCredentials => exact ⟨rfl, rfl⟩

/-- It reads the headers, -/
theorem progress_carry (h : f.Progress env (.ready used) n m)
    (hcarry : f.carry used c = some phase) : f.Progress env phase n m := by
  cases f with
  | refreshCredentials => cases hcarry
  | request f =>
      by_cases htexts : f.texts.all isUtf8 = true
      · have hdump : dump f.texts = .ok () := by
          rw [dump, if_pos htexts]
        rw [carry.eq_def] at hcarry
        simp only [hdump, Option.some.injEq] at hcarry
        rw [Progress.eq_def] at h
        simp only [htexts, if_true] at h
        rw [← hcarry]
        apply progress_request htexts
        cases f with
        | getUserInfo => exact h
        | _ => exact h
      · have hdump : dump f.texts = .error (.typeError 316) := by
          rw [dump, if_neg htexts]
        rw [carry.eq_def] at hcarry
        simp only [hdump, Option.some.injEq] at hcarry
        rw [Progress, if_neg htexts] at h ⊢
        exact ⟨h.1, h.2.1, .inr hcarry.symm⟩

/-- and the address, -/
theorem progress_address {headers : List String} {carried : Carried}
    (h : f.Progress env (.addressing used headers) n m) :
    f.Progress env (.asking used carried) n m := by
  cases f with
  | request f =>
      obtain ⟨htexts, hprogress⟩ := h.call trivial
      exact progress_request htexts hprogress
  | refreshCredentials => exact h.2.elim

/-- is answered, -/
theorem progress_answered {carried : Carried} (h : f.Progress env' (.asking used carried) n m)
    (hparse : env'.parse = env.parse) (ho : env'.outcomes f.endpoint n = o)
    (hanswered : f.answered env used o = some phase) : f.Progress env' phase (n + 1) m := by
  cases f with
  | refreshCredentials => cases hanswered
  | request f =>
      obtain ⟨htexts, hprogress⟩ := h.call trivial
      have hthrough : f.call.Through env' n m used := hprogress
      have ho' : env'.outcomes f.call.endpoint n = o := ho
      apply progress_request htexts
      rw [answered] at hanswered
      by_cases hunauthorized : Unauthorized o
      · rw [if_pos hunauthorized, Option.some.injEq] at hanswered
        rw [← hanswered]
        exact ⟨n, rfl, hthrough, ho' ▸ hunauthorized⟩
      · have hnot : ¬ Unauthorized (env'.outcomes f.call.endpoint n) := ho' ▸ hunauthorized
        have hends := hthrough.endsAt_answered hnot
        rw [ho'] at hends
        rw [if_neg hunauthorized, ← f.reply_congr hparse] at hanswered
        cases hreply : f.call.reply env' o with
        | error fault =>
            rw [hreply] at hanswered hends
            rw [← Option.some.inj hanswered]
            have hretried := AuthorizedCall.retried_of_fault hunauthorized hreply
            refine ⟨n, rfl, hends ?_⟩
            rw [hretried]
            exact fun habsurd => absurd habsurd Bool.false_ne_true
        | ok v =>
            rw [hreply] at hanswered hends
            have hcomplete := AuthorizedCall.isComplete_of_reply hunauthorized hreply
            simp only at hanswered
            by_cases hlast : isComplete v = true ∨ used + 1 = numRetries
            · rw [if_pos hlast, Option.some.injEq] at hanswered
              rw [← hanswered]
              refine ⟨n, rfl, hends ?_⟩
              intro hretried
              rw [hcomplete, hretried] at hlast
              exact hlast.resolve_left (by simp)
            · rw [if_neg hlast, Option.some.injEq] at hanswered
              rw [← hanswered]
              rw [not_or, hcomplete, Bool.not_eq_true', Bool.not_eq_false] at hlast
              have hlt := hthrough.used_lt
              exact hthrough.retried (ho' ▸ hlast.1) (by omega)

/-- reads the refresh token after a 401, -/
theorem progress_read {refreshToken : String} (h : f.Progress env (.refreshing used) n m) :
    f.Progress env (.presenting used refreshToken) n m := by
  cases f with
  | request f =>
      obtain ⟨htexts, hprogress⟩ := h.call trivial
      exact progress_request htexts hprogress
  | refreshCredentials => exact h

/-- comes to the end of the refresh -/
theorem progress_refreshed {refreshToken : String}
    (h : f.Progress env' (.presenting used refreshToken) n m)
    (hparse : env'.parse = env.parse) (ho : env'.outcomes .refreshToken m = o) :
    f.Progress env' (f.refreshed env used o) n (m + 1) := by
  rw [refreshed, ← refreshAnswer_congr hparse]
  cases f with
  | request f =>
      obtain ⟨htexts, k, rfl, hthrough, hunauthorized⟩ := h.call trivial
      apply progress_request htexts
      cases hanswer : refreshAnswer env' o with
      | error fault =>
          have hends := hthrough.endsAt_refused hunauthorized (x := .error fault)
            (by rw [ho, hanswer]; rfl)
          exact ⟨k, rfl, hends⟩
      | ok creds =>
          cases creds with
          | none =>
              have hends := hthrough.endsAt_refused hunauthorized (x := .ok ())
                (by rw [ho, hanswer]; rfl)
              exact ⟨k, rfl, hends⟩
          | some c => exact ⟨k, m, rfl, rfl, hthrough, hunauthorized, by rw [ho, hanswer]⟩
  | refreshCredentials =>
      obtain ⟨rfl, rfl⟩ := h
      cases hanswer : refreshAnswer env' o with
      | error fault => exact ⟨rfl, rfl, by rw [ho, hanswer]; rfl⟩
      | ok creds =>
          cases creds with
          | none => exact ⟨rfl, rfl, by rw [ho, hanswer]; rfl⟩
          | some c => exact ⟨rfl, rfl, by rw [ho, hanswer]⟩

/-- and goes on with what it brought. -/
theorem progress_resumed (h : f.Progress env (.granted used c) n m) :
    f.Progress env (f.resumed used) n m := by
  cases f with
  | request f =>
      obtain ⟨htexts, k, l, rfl, rfl, hthrough, hunauthorized, hanswer⟩ := h.call trivial
      exact progress_request htexts
        (hthrough.refreshed hunauthorized (granted_iff.mpr ⟨c, hanswer⟩))
  | refreshCredentials =>
      obtain ⟨rfl, rfl, hanswer⟩ := h
      exact ⟨rfl, rfl, by rw [hanswer]; rfl⟩

end

end SharedFunction

/-! ## What a call sees -/

/-- The outcome of an exchange of call `i`, -/
def RequestEvent.outcomeOf (i : ℕ) : RequestEvent → Option HttpOutcome
  | .asked j _ o => if j = i then some o else none
  | _ => none

/-- and that of one of its refreshes. -/
def RequestEvent.refreshOf (i : ℕ) : RequestEvent → Option HttpOutcome
  | .presented j _ o => if j = i then some o else none
  | _ => none

/-- The outcomes of the exchanges of call `i`, in order, -/
def askedBy (i : ℕ) (es : List RequestEvent) : List HttpOutcome := es.filterMap (·.outcomeOf i)

/-- and those of its refreshes. -/
def presentedBy (i : ℕ) (es : List RequestEvent) : List HttpOutcome :=
  es.filterMap (·.refreshOf i)

/-- The call whose step it is. -/
def RequestAction.call : RequestAction → ℕ
  | .carry i | .address i | .ask i _ | .read i | .present i _ | .store i => i

namespace SharedFunction

/-- `env'` gives these outcomes to the exchanges and the refreshes of a call. -/
structure Sees (f : SharedFunction) (env env' : Environment) (os rs : List HttpOutcome) :
    Prop where
  parse : env'.parse = env.parse
  asked : ∀ k o, os[k]? = some o → env'.outcomes f.endpoint k = o
  presented : ∀ k o, rs[k]? = some o → env'.outcomes .refreshToken k = o

/-- The session of a call that has made `n` exchanges and `m` refreshes by itself. -/
def sessionAfter (f : SharedFunction) (env : Environment) (n m : ℕ) (c : Credentials) :
    Session Credentials where
  asked := Function.update (Function.update (fun _ => 0) f.endpoint n) .refreshToken m
  state := Caff.refreshed env 0 m c

/-- **Alone**, with credentials that no one else uses, the function ends with `r` where its
exchanges and its refreshes have these outcomes. -/
structure EndsAlone (f : SharedFunction) (env : Environment) (os rs : List HttpOutcome)
    (r : Json.Access f.Result) : Prop where
  only : f = .refreshCredentials → os = []
  ends : ∀ env', f.Sees env env' os rs → ∀ c, ∃ depth, ∀ d, depth ≤ d →
    f.body d env' (.start c) = lift r env' (f.sessionAfter env' os.length rs.length c)

end SharedFunction

section

variable {env env' : Environment} {calls : ℕ → SharedFunction} {s s' : SharedRequests calls}
  {a : RequestAction} {es out : List RequestEvent} {os rs : List HttpOutcome} {o : HttpOutcome}
  {i : ℕ} {c₀ : Credentials}

/-- The outcomes that a call has seen, -/
theorem askedBy_append : askedBy i (es ++ out) = askedBy i es ++ askedBy i out :=
  List.filterMap_append

/-- and those of its refreshes, are seen one after the other. -/
theorem presentedBy_append : presentedBy i (es ++ out) = presentedBy i es ++ presentedBy i out :=
  List.filterMap_append

/-- A call sees what it has seen before. -/
theorem SharedFunction.Sees.of_append {f : SharedFunction} {os' rs' : List HttpOutcome}
    (h : f.Sees env env' (os ++ os') (rs ++ rs')) : f.Sees env env' os rs where
  parse := h.parse
  asked k o hk := by
    apply h.asked
    obtain ⟨hlt, -⟩ := List.getElem?_eq_some_iff.mp hk
    rw [List.getElem?_append_left hlt, hk]
  presented k o hk := by
    apply h.presented
    obtain ⟨hlt, -⟩ := List.getElem?_eq_some_iff.mp hk
    rw [List.getElem?_append_left hlt, hk]

/-- The last outcome is the one that comes next alone. -/
theorem SharedFunction.Sees.last_asked {f : SharedFunction}
    (h : f.Sees env env' (os ++ [o]) rs) : env'.outcomes f.endpoint os.length = o :=
  h.asked _ _ List.getElem?_concat_length

/-- So is that of the last refresh. -/
theorem SharedFunction.Sees.last_presented {f : SharedFunction}
    (h : f.Sees env env' os (rs ++ [o])) : env'.outcomes .refreshToken rs.length = o :=
  h.presented _ _ List.getElem?_concat_length

/-- A step of another call leaves the call where it is. -/
theorem SharedMoves.of_other (h : SharedMoves env s a s' out) (hi : i ≠ a.call) :
    s'.phases i = s.phases i ∧ askedBy i out = [] ∧ presentedBy i out = [] := by
  cases h with
  | carry j used phase hphase hcarry => exact ⟨Function.update_of_ne hi _ _, rfl, rfl⟩
  | address j used headers hphase => exact ⟨Function.update_of_ne hi _ _, rfl, rfl⟩
  | ask j used carried o phase hphase hanswered =>
      have hj : ¬ j = i := fun heq => hi heq.symm
      refine ⟨Function.update_of_ne hi _ _, ?_, rfl⟩
      simp [askedBy, RequestEvent.outcomeOf, hj]
  | read j used hphase => exact ⟨Function.update_of_ne hi _ _, rfl, rfl⟩
  | present j used refreshToken o hphase =>
      have hj : ¬ j = i := fun heq => hi heq.symm
      refine ⟨Function.update_of_ne hi _ _, rfl, ?_⟩
      simp [presentedBy, RequestEvent.refreshOf, hj]
  | store j used c hphase => exact ⟨Function.update_of_ne hi _ _, rfl, rfl⟩

theorem askedBy_asked {carried : Carried} : askedBy i [.asked i carried o] = [o] := by
  simp [askedBy, RequestEvent.outcomeOf]

theorem presentedBy_presented {refreshToken : String} :
    presentedBy i [.presented i refreshToken o] = [o] := by
  simp [presentedBy, RequestEvent.refreshOf]

/-- A refresh by itself has no exchange of its own. -/
theorem SharedFunction.asks_of_answered {f : SharedFunction} {used : ℕ}
    {phase : RequestPhase f.Result} (h : f.answered env used o = some phase) :
    f ≠ .refreshCredentials := by
  rintro rfl
  cases h

/-- The session before any exchange. -/
theorem SharedFunction.sessionAfter_zero {f : SharedFunction} (c : Credentials) :
    f.sessionAfter env 0 0 c = .start c := by
  have hasked : Function.update (Function.update (fun _ => 0) f.endpoint 0) .refreshToken 0 =
      fun _ => 0 := by
    rw [Function.update_eq_self_iff.mpr rfl, Function.update_eq_self_iff.mpr rfl]
  rw [SharedFunction.sessionAfter, hasked]
  rfl

/-- A refresh by itself. -/
theorem refreshCredentials_start (env : Environment) (c : Credentials) :
    refreshCredentials env (.start c) =
      lift (Option.isSome <$> refreshAnswer env (env.outcomes .refreshToken 0)) env
        (SharedFunction.refreshCredentials.sessionAfter env 0 1 c) := by
  have hasked : (Session.start c).asked .refreshToken = 0 := rfl
  have hone : Function.update (Function.update (fun _ => 0) Endpoint.refreshToken 0)
      .refreshToken 1 = ((Session.start c).ask .refreshToken).asked := by
    rw [Function.update_eq_self_iff.mpr rfl]
    rfl
  rw [refreshCredentials_apply, hasked, SharedFunction.sessionAfter, SharedFunction.endpoint, hone,
    Caff.refreshed]
  cases refreshAnswer env (env.outcomes .refreshToken 0) with
  | error fault => rfl
  | ok creds =>
      cases creds with
      | none => rfl
      | some c' => rfl

/-- A function that has ended alone. -/
theorem SharedFunction.ends_of_progress {f : SharedFunction} {r : Json.Access f.Result} {n m : ℕ}
    (h : f.Progress env (.ended r) n m) (c : Credentials) :
    ∃ depth, ∀ d, depth ≤ d → f.body d env (.start c) = lift r env (f.sessionAfter env n m c) := by
  cases f with
  | request f =>
      by_cases htexts : f.texts.all isUtf8 = true
      · rw [Progress.eq_def] at h
        simp only [htexts, if_true] at h
        obtain ⟨k, rfl, hends⟩ := h
        obtain ⟨depth, hd⟩ := hends.request c
        refine ⟨depth, fun d hle => ?_⟩
        show f.body d env (.start c) = _
        rw [RequestFunction.body_of_isUtf8 htexts]
        exact hd d hle
      · rw [Progress.eq_def] at h
        simp only [htexts, Bool.false_eq_true, if_false] at h
        obtain ⟨rfl, rfl, hready | hended⟩ := h
        · cases hready
        · cases hended
          refine ⟨0, fun d _ => ?_⟩
          show f.body d env (.start c) = _
          rw [RequestFunction.body_of_not_isUtf8 htexts, SharedFunction.sessionAfter_zero]
          rfl
  | refreshCredentials =>
      obtain ⟨rfl, rfl, rfl⟩ := h
      exact ⟨0, fun d _ => refreshCredentials_start env c⟩

/-- The exchanges of call `i` have these outcomes so far, and it is where it would be alone. -/
structure AsAlone (env : Environment) (s : SharedRequests calls) (i : ℕ)
    (os rs : List HttpOutcome) : Prop where
  only : calls i = .refreshCredentials → os = []
  progress : ∀ env', (calls i).Sees env env' os rs →
    (calls i).Progress env' (s.phases i) os.length rs.length

/-- A step without an exchange. -/
theorem AsAlone.of_quiet (h : AsAlone env s i os rs)
    (hprogress : ∀ env', (calls i).Progress env' (s.phases i) os.length rs.length →
      (calls i).Progress env' (s'.phases i) os.length rs.length) :
    AsAlone env s' i (os ++ []) (rs ++ []) := by
  rw [List.append_nil, List.append_nil]
  exact ⟨h.only, fun env' hsees => hprogress env' (h.progress env' hsees)⟩

/-- An exchange. -/
theorem AsAlone.ask {used : ℕ} {carried : Carried} {phase : RequestPhase (calls i).Result}
    (h : AsAlone env s i os rs) (hphase : s.phases i = .asking used carried)
    (hanswered : (calls i).answered env used o = some phase) :
    AsAlone env (s.setPhase i phase) i (os ++ [o]) (rs ++ []) := by
  refine ⟨fun hrefresh => absurd hrefresh (SharedFunction.asks_of_answered hanswered), ?_⟩
  intro env' hsees
  have hprogress := h.progress env' (by simpa using hsees.of_append)
  rw [hphase] at hprogress
  rw [SharedRequests.setPhase_phases_self, List.length_append, List.append_nil]
  rw [List.append_nil] at hsees
  exact SharedFunction.progress_answered hprogress hsees.parse hsees.last_asked hanswered

/-- A refresh. -/
theorem AsAlone.present {used : ℕ} {refreshToken : String} (h : AsAlone env s i os rs)
    (hphase : s.phases i = .presenting used refreshToken) :
    AsAlone env (s.setPhase i ((calls i).refreshed env used o)) i (os ++ []) (rs ++ [o]) := by
  rw [List.append_nil]
  refine ⟨h.only, ?_⟩
  intro env' hsees
  have hbefore : (calls i).Sees env env' (os ++ []) (rs ++ [o]) := by
    rwa [List.append_nil]
  have hprogress := h.progress env' hbefore.of_append
  rw [hphase] at hprogress
  rw [SharedRequests.setPhase_phases_self, List.length_append]
  exact SharedFunction.progress_refreshed hprogress hsees.parse hsees.last_presented

/-- **A step of the call**: it does what it would do alone. -/
theorem SharedMoves.asAlone (h : SharedMoves env s a s' out) (hi : a.call = i)
    (halone : AsAlone env s i os rs) :
    AsAlone env s' i (os ++ askedBy i out) (rs ++ presentedBy i out) := by
  cases h with
  | carry j used phase hphase hcarry =>
      obtain rfl : j = i := hi
      refine halone.of_quiet fun env' hprogress => ?_
      rw [hphase] at hprogress
      rw [SharedRequests.setPhase_phases_self]
      exact SharedFunction.progress_carry hprogress hcarry
  | address j used headers hphase =>
      obtain rfl : j = i := hi
      refine halone.of_quiet fun env' hprogress => ?_
      rw [hphase] at hprogress
      rw [SharedRequests.setPhase_phases_self]
      exact SharedFunction.progress_address hprogress
  | ask j used carried o phase hphase hanswered =>
      obtain rfl : j = i := hi
      rw [askedBy_asked]
      exact halone.ask hphase hanswered
  | read j used hphase =>
      obtain rfl : j = i := hi
      refine halone.of_quiet fun env' hprogress => ?_
      rw [hphase] at hprogress
      rw [SharedRequests.setPhase_phases_self]
      exact SharedFunction.progress_read hprogress
  | present j used refreshToken o hphase =>
      obtain rfl : j = i := hi
      rw [presentedBy_presented]
      exact halone.present hphase
  | store j used c hphase =>
      obtain rfl : j = i := hi
      refine halone.of_quiet fun env' hprogress => ?_
      rw [hphase] at hprogress
      show (calls j).Progress env' ((s.setPhase j _).phases j) _ _
      rw [SharedRequests.setPhase_phases_self]
      exact SharedFunction.progress_resumed hprogress

/-- **Run lemma.** -/
theorem SharedRuns.asAlone {tr : List (SharedRequests calls × RequestAction)}
    (h : SharedRuns env calls c₀ tr es s) (i : ℕ) :
    AsAlone env s i (askedBy i es) (presentedBy i es) := by
  apply h.induction_on_trace
    (I := fun _ es s => AsAlone env s i (askedBy i es) (presentedBy i es))
  · exact ⟨fun _ => rfl, fun _ _ => SharedFunction.progress_begin⟩
  · intro tr es s a s' out halone hs
    have hmoves := sharedMoves_of_step hs
    rw [askedBy_append, presentedBy_append]
    by_cases hi : a.call = i
    · exact hmoves.asAlone hi halone
    · obtain ⟨hphase, hasked, hpresented⟩ := hmoves.of_other (Ne.symm hi)
      rw [hasked, hpresented, List.append_nil, List.append_nil]
      refine ⟨halone.only, ?_⟩
      rw [hphase]
      exact halone.progress

/-- What a call comes to that has ended is what its function comes to alone. -/
theorem AsAlone.endsAlone {r : Json.Access (calls i).Result} (h : AsAlone env s i os rs)
    (hended : s.phases i = .ended r) : (calls i).EndsAlone env os rs r := by
  obtain ⟨honly, hprogress⟩ := h
  rw [hended] at hprogress
  refine ⟨honly, ?_⟩
  intro env' hsees c
  exact SharedFunction.ends_of_progress (hprogress env' hsees) c

end

/-! ## A call that goes on by itself -/

/-- The steps that a call can take before its next exchange, and then some. -/
def RequestPhase.rank {T : Type} : RequestPhase T → ℕ
  | .refreshing _ => 7
  | .presenting _ _ => 6
  | .granted _ _ => 5
  | .ready _ => 4
  | .addressing _ _ => 3
  | .asking _ _ => 2
  | .ended _ => 0

/-- At most seven. -/
theorem RequestPhase.rank_le {T : Type} (phase : RequestPhase T) : phase.rank ≤ 7 := by
  cases phase with
  | _ => simp [RequestPhase.rank]

section

variable {env env' : Environment} {calls : ℕ → SharedFunction} {s : SharedRequests calls}
  {os rs : List HttpOutcome} {i N : ℕ} {c : Credentials}

namespace SharedFunction

variable {f : SharedFunction} {used n m : ℕ}

/-- A function that ends makes a bounded number of exchanges. -/
theorem exists_bound {r : Json.Access f.Result} {t : Session Credentials} (hends : ∃ depth, ∀ d,
    depth ≤ d → f.body d env (.start c) = lift r env t) :
    ∃ N, ∀ phase n m, f.Progress env phase n m → n ≤ N := by
  cases f with
  | refreshCredentials => exact ⟨0, fun phase n m h => le_of_eq h.1⟩
  | request f =>
      by_cases htexts : f.texts.all isUtf8 = true
      · have hfinishes : Finishes f.call.request env (.start c) := by
          obtain ⟨depth, hd⟩ := hends
          refine ⟨depth, lift r env t, ?_, fun d hle => ?_⟩
          · cases r with
            | error fault => simp [lift]
            | ok v => simp [lift]
          · rw [← RequestFunction.body_of_isUtf8 htexts]
            exact hd d hle
        have hlets := (finishes_authorizedRequest_iff f.call.endpoint_ne f.call.replies
          f.call.empty).1.mp hfinishes
        obtain ⟨k, hk⟩ := not_forall.mp hlets
        -- no request goes on after exchange `k`
        have hle : ∀ n, (∀ j < n, GoesOn env f.call.endpoint f.call.retried 0 0 0 j) → n ≤ k := by
          intro n hbefore
          by_contra hlt
          exact hk (hbefore k (not_le.mp hlt))
        refine ⟨k + 1, fun phase n m h => ?_⟩
        rw [Progress.eq_def] at h
        simp only [htexts, if_true] at h
        cases phase with
        | ready used => exact Nat.le_succ_of_le (hle n h.before)
        | addressing used headers => exact Nat.le_succ_of_le (hle n h.before)
        | asking used carried => exact Nat.le_succ_of_le (hle n h.before)
        | refreshing used =>
            obtain ⟨j, rfl, hthrough, -⟩ := h
            exact Nat.succ_le_succ (hle j hthrough.before)
        | presenting used refreshToken =>
            obtain ⟨j, rfl, hthrough, -⟩ := h
            exact Nat.succ_le_succ (hle j hthrough.before)
        | granted used c =>
            obtain ⟨j, l, rfl, rfl, hthrough, -⟩ := h
            exact Nat.succ_le_succ (hle j hthrough.before)
        | ended r =>
            obtain ⟨j, rfl, hends⟩ := h
            exact Nat.succ_le_succ (hle j hends.before)
      · refine ⟨0, fun phase n m h => ?_⟩
        rw [Progress.eq_def] at h
        simp only [htexts, Bool.false_eq_true, if_false] at h
        exact le_of_eq h.1

/-- A call can always read the headers, -/
theorem exists_carry (h : f.Progress env (.ready used) n m) :
    ∃ phase, f.carry used c = some phase ∧ phase.rank < 4 := by
  cases f with
  | refreshCredentials => exact h.2.elim
  | request f =>
      cases hdump : dump f.texts with
      | error fault =>
          refine ⟨.ended (.error fault), ?_, by simp [RequestPhase.rank]⟩
          simp [carry, hdump]
      | ok u =>
          refine ⟨f.headed used (authenticatedHeaders c), ?_, ?_⟩
          · simp [carry, hdump]
          · cases f with
            | _ => simp [RequestFunction.headed, RequestPhase.rank]

/-- and go on from any outcome, -/
theorem exists_answered {carried : Carried} (h : f.Progress env (.asking used carried) n m)
    (o : HttpOutcome) : ∃ phase, f.answered env' used o = some phase := by
  cases f with
  | refreshCredentials => exact h.2.elim
  | request f =>
      rw [answered]
      by_cases hunauthorized : Unauthorized o
      · rw [if_pos hunauthorized]
        exact ⟨_, rfl⟩
      · rw [if_neg hunauthorized]
        cases f.call.reply env' o with
        | error fault => exact ⟨_, rfl⟩
        | ok v =>
            simp only
            by_cases hlast : isComplete v = true ∨ used + 1 = numRetries
            · rw [if_pos hlast]
              exact ⟨_, rfl⟩
            · rw [if_neg hlast]
              exact ⟨_, rfl⟩

/-- nearer to its next exchange after a refresh, -/
theorem rank_refreshed (o : HttpOutcome) : (f.refreshed env used o).rank < 6 := by
  rw [refreshed]
  cases refreshAnswer env o with
  | error fault => simp [RequestPhase.rank]
  | ok creds =>
      cases creds with
      | none => simp [RequestPhase.rank]
      | some c => simp [RequestPhase.rank]

/-- and after the credentials are stored. -/
theorem rank_resumed : (f.resumed used).rank < 5 := by
  cases f with
  | request f => simp [resumed, RequestPhase.rank]
  | refreshCredentials => simp [resumed, RequestPhase.rank]

/-- What is found among the outcomes with one more. -/
theorem of_getElem?_concat {o o' : HttpOutcome} {k : ℕ} (h : (os ++ [o'])[k]? = some o) :
    os[k]? = some o ∨ k = os.length ∧ o' = o := by
  by_cases hlt : k < os.length
  · rw [List.getElem?_append_left hlt] at h
    exact .inl h
  · obtain ⟨hle, ho⟩ := List.getElem?_eq_some_iff.mp h
    rw [List.length_append, List.length_singleton] at hle
    obtain rfl : k = os.length := by omega
    rw [List.getElem_concat_length rfl] at ho
    exact .inr ⟨rfl, ho⟩

/-- One more exchange is seen, -/
theorem Sees.snoc_asked (h : f.Sees env env' os rs) :
    f.Sees env env' (os ++ [env'.outcomes f.endpoint os.length]) rs where
  parse := h.parse
  asked k o hk := by
    rcases of_getElem?_concat hk with hold | ⟨rfl, ho⟩
    · exact h.asked k o hold
    · exact ho
  presented := h.presented

/-- and one more refresh. -/
theorem Sees.snoc_presented (h : f.Sees env env' os rs) :
    f.Sees env env' os (rs ++ [env'.outcomes .refreshToken rs.length]) where
  parse := h.parse
  asked := h.asked
  presented k o hk := by
    rcases of_getElem?_concat hk with hold | ⟨rfl, ho⟩
    · exact h.presented k o hold
    · exact ho

end SharedFunction

/-- The call can take a step that brings it closer to its end, after `N` exchanges at most. -/
def CanMove (env env' : Environment) (s : SharedRequests calls) (i : ℕ)
    (os rs : List HttpOutcome) (N : ℕ) : Prop :=
  ∃ a s' out, a.call = i ∧ SharedMoves env s a s' out ∧
    (calls i).Sees env env' (os ++ askedBy i out) (rs ++ presentedBy i out) ∧
    6 * (N - (os ++ askedBy i out).length) + (s'.phases i).rank <
      6 * (N - os.length) + (s.phases i).rank

/-- By a step without an exchange. -/
theorem canMove_of_quiet {a : RequestAction} {s' : SharedRequests calls}
    {out : List RequestEvent} (hsees : (calls i).Sees env env' os rs) (ha : a.call = i)
    (hmoves : SharedMoves env s a s' out) (hasked : askedBy i out = [])
    (hpresented : presentedBy i out = []) (hlt : (s'.phases i).rank < (s.phases i).rank) :
    CanMove env env' s i os rs N := by
  refine ⟨a, s', out, ha, hmoves, ?_, ?_⟩
  · rw [hasked, hpresented, List.append_nil, List.append_nil]
    exact hsees
  · rw [hasked, List.append_nil]
    omega

/-- By the next exchange. -/
theorem canMove_asking {used : ℕ} {carried : Carried} (hsees : (calls i).Sees env env' os rs)
    (hprogress : (calls i).Progress env' (s.phases i) os.length rs.length)
    (hbound : ∀ phase n m, (calls i).Progress env' phase n m → n ≤ N)
    (hphase : s.phases i = .asking used carried) : CanMove env env' s i os rs N := by
  rw [hphase] at hprogress
  obtain ⟨phase, hanswered⟩ : ∃ phase, (calls i).answered env used
      (env'.outcomes (calls i).endpoint os.length) = some phase :=
    SharedFunction.exists_answered hprogress _
  have hmoves := SharedMoves.ask i used carried _ phase hphase hanswered
  have hafter := SharedFunction.progress_answered hprogress hsees.parse rfl hanswered
  have hle := hbound _ _ _ hafter
  have hrank := phase.rank_le
  refine ⟨_, _, _, rfl, hmoves, ?_, ?_⟩
  · rw [askedBy_asked]
    show (calls i).Sees env env' _ (rs ++ [])
    rw [List.append_nil]
    exact hsees.snoc_asked
  · rw [askedBy_asked, SharedRequests.setPhase_phases_self, List.length_append,
      List.length_singleton, hphase, RequestPhase.rank.eq_def (.asking used carried)]
    simp only
    omega

/-- By a refresh. -/
theorem canMove_presenting {used : ℕ} {refreshToken : String}
    (hsees : (calls i).Sees env env' os rs)
    (hphase : s.phases i = .presenting used refreshToken) : CanMove env env' s i os rs N := by
  have hmoves : SharedMoves env s _ _ _ :=
    .present i used refreshToken (env'.outcomes .refreshToken rs.length) hphase
  have hrank := @SharedFunction.rank_refreshed env (calls i) used
    (env'.outcomes .refreshToken rs.length)
  refine ⟨_, _, _, rfl, hmoves, ?_, ?_⟩
  · rw [presentedBy_presented]
    show (calls i).Sees env env' (os ++ []) _
    rw [List.append_nil]
    exact hsees.snoc_presented
  · show 6 * (N - (os ++ []).length) + _ < _
    rw [List.append_nil, SharedRequests.setPhase_phases_self, hphase,
      RequestPhase.rank.eq_def (.presenting used refreshToken)]
    simp only
    omega

/-- **A call that has not ended can go on**, and is then closer to its end. -/
theorem canMove (hsees : (calls i).Sees env env' os rs) (halone : AsAlone env s i os rs)
    (hbound : ∀ phase n m, (calls i).Progress env' phase n m → n ≤ N)
    (hgoal : ¬ ∃ r, s.phases i = .ended r) : CanMove env env' s i os rs N := by
  have hprogress := halone.progress env' hsees
  cases hphase : s.phases i with
  | ready used =>
      rw [hphase] at hprogress
      obtain ⟨phase, hcarry, hrank⟩ := SharedFunction.exists_carry (c := s.credentials) hprogress
      refine canMove_of_quiet hsees rfl (.carry i used phase hphase hcarry) rfl rfl ?_
      rw [SharedRequests.setPhase_phases_self, hphase]
      exact hrank
  | addressing used headers =>
      refine canMove_of_quiet hsees rfl (.address i used headers hphase) rfl rfl ?_
      rw [SharedRequests.setPhase_phases_self, hphase]
      simp [RequestPhase.rank]
  | asking used carried => exact canMove_asking hsees hprogress hbound hphase
  | refreshing used =>
      refine canMove_of_quiet hsees rfl (.read i used hphase) rfl rfl ?_
      rw [SharedRequests.setPhase_phases_self, hphase]
      simp [RequestPhase.rank]
  | presenting used refreshToken => exact canMove_presenting hsees hphase
  | granted used c =>
      refine canMove_of_quiet hsees rfl (.store i used c hphase) rfl rfl ?_
      show ((s.setPhase i _).phases i).rank < _
      rw [SharedRequests.setPhase_phases_self, hphase]
      exact SharedFunction.rank_resumed
  | ended r => exact absurd ⟨r, hphase⟩ hgoal

end

/-! ## Among others and alone -/

/-- The environment that gives a call these outcomes. -/
def Environment.giving (env : Environment) (os rs : List HttpOutcome) : Environment :=
  { env with outcomes := fun e k =>
      if e = .refreshToken then rs.getD k ⟨.ok, 0, []⟩ else os.getD k ⟨.ok, 0, []⟩ }

section

variable {env env' : Environment} {f : SharedFunction} {os rs os' rs' : List HttpOutcome}

/-- Only a refresh by itself asks the endpoint of refreshes. -/
theorem SharedFunction.endpoint_ne (hf : f ≠ .refreshCredentials) :
    f.endpoint ≠ .refreshToken := by
  cases f with
  | request g => exact g.call.endpoint_ne
  | refreshCredentials => exact absurd rfl hf

/-- In it the call sees them. -/
theorem sees_giving (honly : f = .refreshCredentials → os = []) :
    f.Sees env (env.giving os rs) os rs where
  parse := rfl
  asked k o hk := by
    by_cases hf : f = .refreshCredentials
    · rw [honly hf] at hk
      simp at hk
    · show (if f.endpoint = .refreshToken then _ else _) = o
      rw [if_neg (SharedFunction.endpoint_ne hf), List.getD_eq_getElem?_getD, hk]
      rfl
  presented k o hk := by
    show rs.getD k _ = o
    rw [List.getD_eq_getElem?_getD, hk]
    rfl

/-- Outcomes of which there are as many are the same. -/
theorem SharedFunction.Sees.eq (h : f.Sees env env' os rs) (h' : f.Sees env env' os' rs')
    (hos : os.length = os'.length) (hrs : rs.length = rs'.length) : os = os' ∧ rs = rs' := by
  constructor
  · apply List.ext_getElem hos
    intro k hk hk'
    rw [← h.asked k _ (List.getElem?_eq_getElem hk), h'.asked k _ (List.getElem?_eq_getElem hk')]
  · apply List.ext_getElem hrs
    intro k hk hk'
    rw [← h.presented k _ (List.getElem?_eq_getElem hk),
      h'.presented k _ (List.getElem?_eq_getElem hk')]

/-- Alone, the outcomes decide what the function ends with. -/
theorem SharedFunction.EndsAlone.eq {r r' : Json.Access f.Result} (h : f.EndsAlone env os rs r)
    (h' : f.EndsAlone env os' rs' r') (hsees : f.Sees env env' os rs)
    (hsees' : f.Sees env env' os' rs') : r = r' ∧ os = os' ∧ rs = rs' := by
  obtain ⟨depth, hd⟩ := h.ends env' hsees ⟨"", "", "", ""⟩
  obtain ⟨depth', hd'⟩ := h'.ends env' hsees' ⟨"", "", "", ""⟩
  have heq := (hd (max depth depth') (le_max_left ..)).symm.trans
    (hd' (max depth depth') (le_max_right ..))
  have hresult : r = r' := by
    cases r with
    | error fault =>
        cases r' with
        | error fault' => simpa [lift] using (Prod.mk.inj heq).1
        | ok v' => simp [lift] at heq
    | ok v =>
        cases r' with
        | error fault' => simp [lift] at heq
        | ok v' => simpa [lift] using (Prod.mk.inj heq).1
  have hsession : f.sessionAfter env' os.length rs.length ⟨"", "", "", ""⟩ =
      f.sessionAfter env' os'.length rs'.length ⟨"", "", "", ""⟩ := by
    cases r with
    | error fault =>
        rw [← hresult] at heq
        exact (Prod.mk.inj heq).2
    | ok v =>
        rw [← hresult] at heq
        exact (Prod.mk.inj heq).2
  have hasked := (Session.mk.inj hsession).1
  have hrs : rs.length = rs'.length := by
    have := congrFun hasked .refreshToken
    rwa [Function.update_self, Function.update_self] at this
  have hos : os.length = os'.length := by
    by_cases hf : f = .refreshCredentials
    · rw [h.only hf, h'.only hf]
    · have hne := SharedFunction.endpoint_ne hf
      have := congrFun hasked f.endpoint
      rwa [Function.update_of_ne hne, Function.update_of_ne hne, Function.update_self,
        Function.update_self] at this
  exact ⟨hresult, hsees.eq hsees' hos hrs⟩

end

/-- **A call among others.**  Whatever the other calls are and in whatever order all make their
accesses to the credentials, a call can come to a result after exchanges and refreshes with
certain outcomes exactly if its function comes to it after these when it is alone. -/
theorem endsAmongOthers_iff (env : Environment) (calls : ℕ → SharedFunction) (c₀ : Credentials)
    (i : ℕ) (os rs : List HttpOutcome) (r : Json.Access (calls i).Result) :
    (∃ tr es s, SharedRuns env calls c₀ tr es s ∧ s.phases i = .ended r ∧
      askedBy i es = os ∧ presentedBy i es = rs) ↔ (calls i).EndsAlone env os rs r := by
  constructor
  · rintro ⟨tr, es, s, hrun, hended, rfl, rfl⟩
    exact (hrun.asAlone i).endsAlone hended
  · intro halone
    have hsees : (calls i).Sees env (env.giving os rs) os rs := sees_giving halone.only
    obtain ⟨N, hbound⟩ := SharedFunction.exists_bound (halone.ends _ hsees c₀)
    -- the call takes its steps, and no other does
    have hstep : ∀ (es : List RequestEvent) (s : SharedRequests calls),
        (calls i).Sees env (env.giving os rs) (askedBy i es) (presentedBy i es) ∧
          AsAlone env s i (askedBy i es) (presentedBy i es) →
        ¬ (∃ r, s.phases i = .ended r) →
        ∃ a s' out, (sharedMachine env calls).step s a = some (s', out) ∧
          ((calls i).Sees env (env.giving os rs) (askedBy i (es ++ out))
              (presentedBy i (es ++ out)) ∧
            AsAlone env s' i (askedBy i (es ++ out)) (presentedBy i (es ++ out))) ∧
          6 * (N - (askedBy i (es ++ out)).length) + (s'.phases i).rank <
            6 * (N - (askedBy i es).length) + (s.phases i).rank := by
      rintro es s ⟨hsees, halone⟩ hgoal
      obtain ⟨a, s', out, ha, hmoves, hsees', hlt⟩ := canMove hsees halone hbound hgoal
      refine ⟨a, s', out, hmoves.step, ?_⟩
      rw [askedBy_append, presentedBy_append]
      exact ⟨⟨hsees', hmoves.asAlone ha halone⟩, hlt⟩
    have hstart : (calls i).Sees env (env.giving os rs) (askedBy i []) (presentedBy i []) ∧
        AsAlone env (SharedRequests.start calls c₀) i (askedBy i []) (presentedBy i []) := by
      refine ⟨⟨rfl, ?_, ?_⟩, fun _ => rfl, fun _ _ => SharedFunction.progress_begin⟩
      · intro k o hk
        simp [askedBy] at hk
      · intro k o hk
        simp [presentedBy] at hk
    obtain ⟨tr, es, s, hrun, ⟨hsees', halone'⟩, r', hended⟩ :=
      Machine.Run.exists_of_variant
        (I := fun es s => (calls i).Sees env (env.giving os rs) (askedBy i es) (presentedBy i es) ∧
          AsAlone env s i (askedBy i es) (presentedBy i es))
        (v := fun es s => 6 * (N - (askedBy i es).length) + (s.phases i).rank)
        hstep (.refl (.start calls c₀)) hstart
    obtain ⟨rfl, rfl, rfl⟩ := halone.eq (halone'.endsAlone hended) hsees hsees'
    exact ⟨tr, es, s, hrun, hended, rfl, rfl⟩

end Caff
