/-
# Several instances in one process

What the calls on an instance change is its own, but for the `static std::string copyForC` of
`getAccessToken` and of `getCredential`, which there is once for all instances.  `Process`
has the instances, these strings, and for each instance the pointers that its getters
returned last.  The calls are one after another, in any order; the answers of the network
are part of a call.
-/
import Caffeine.StoredToken
import Caffeine.Library.Noninterference

namespace Caff

open Http

/-! ## The getters -/

namespace Instance

/-- The text that `getUsername` points to. -/
def getUsername (i : Instance) : Option String := i.userInfo.map (·.username)

/-- The text of the shared credentials that a getter copies for C. -/
def textForC (text : Credentials → String) (i : Instance) : Option String :=
  i.sharedCredentials.map text

def getAccessToken (i : Instance) : Option String := i.textForC (·.accessToken)

def getCredential (i : Instance) : Option String := i.textForC (·.credential)

end Instance

/-- The getters that return a `char const *`. -/
inductive Getter
  | getRefreshToken
  | getAccessToken
  | getCredential
  | getUsername
  deriving DecidableEq, Repr

/-- The text the getter finds. -/
def Getter.text : Getter → Instance → Option String
  | .getRefreshToken => Instance.getRefreshToken
  | .getAccessToken => Instance.getAccessToken
  | .getCredential => Instance.getCredential
  | .getUsername => Instance.getUsername

/-- The getter returns a pointer into its static string and not into the instance. -/
def Getter.isStatic : Getter → Bool
  | .getAccessToken | .getCredential => true
  | .getRefreshToken | .getUsername => false

/-! ## One instance -/

/-- An `Instance` with its game list, and with the connection quality of its broadcast. -/
structure Client where
  members : Instance := {}
  gameList : Option GameList := none
  connectionQuality : ConnectionQuality := .unknown
  deriving DecidableEq, Repr

/-- The calls on one instance.  `call` are those of `apiMachine`, and `heartbeat` is the
thread of the broadcast that stores what a heartbeat brought. -/
inductive ClientCall
  | createInstance (env : Environment)
  | freeInstance
  | call (step : ApiStep)
  | isSignedIn
  | canBroadcast
  | get (getter : Getter)
  | enumerateGames (env : Environment)
  | getConnectionQuality
  | heartbeat (connectionQuality : ConnectionQuality)

/-- What a call shows to its caller; of a pointer, whether it is null. -/
inductive Observed
  | handle (created : Bool)
  | result (result : Result)
  | flag (value : Bool)
  | pointer (isNull : Bool)
  | games (result : Result) (entries : List (String × String × String))
  | quality (connectionQuality : ConnectionQuality)
  deriving DecidableEq, Repr

namespace Client

/-- The members after a call; a new broadcast has no connection quality yet. -/
def setMembers (client : Client) (members : Instance) : Client :=
  { client with
    members := members
    connectionQuality :=
      if client.members.broadcast.isSome then client.connectionQuality else .unknown }

/-- The enumeration of a list: process name, game ID and game name. -/
def entries (gameList : GameList) : List (String × String × String) :=
  gameList.flatMap fun game => game.processNames.map fun processName =>
    (processName, game.id, game.name)

/-- `enumerateGames`, once the list has been asked for. -/
def enumerate : Option GameList → Observed
  | none | some [] => .games .failure []
  | some gameList => .games .success (entries gameList)

/-- `caff_enumerateGames`. -/
def enumerateGames (client : Client) (env : Environment) : Client × Observed :=
  match client.gameList with
  | some gameList => (client, enumerate (some gameList))
  | none =>
      match getSupportedGames env (Session.start ()) with
      | (.ok gameList, _) => ({ client with gameList }, enumerate gameList)
      | (.error _, _) => (client, .games .failure [])

/-- `caff_getConnectionQuality`. -/
def getConnectionQuality (client : Client) : ConnectionQuality :=
  if client.members.broadcast.isSome then client.connectionQuality else .unknown

/-- A call on an instance, which may not be there. -/
def step : Option Client → ClientCall → Option (Option Client × List Observed)
  | none, .createInstance env =>
      match getSupportedGames env (Session.start ()) with
      | (.ok gameList, _) => some (some { gameList }, [.handle true])
      | (.error _, _) => some (none, [.handle false])
  | some _, .freeInstance => some (none, [])
  | some client, .call step =>
      (apiMachine.step client.members step).map fun r =>
        (some (client.setMembers r.1), r.2.map .result)
  | some client, .isSignedIn => some (some client, [.flag client.members.isSignedIn])
  | some client, .canBroadcast => some (some client, [.flag client.members.canBroadcast])
  | some client, .get getter =>
      some (some client, [.pointer (getter.text client.members).isNone])
  | some client, .enumerateGames env =>
      some (some (client.enumerateGames env).1, [(client.enumerateGames env).2])
  | some client, .getConnectionQuality =>
      some (some client, [.quality client.getConnectionQuality])
  | some client, .heartbeat connectionQuality =>
      if client.members.broadcast.isSome then some (some { client with connectionQuality }, [])
      else none
  | _, _ => none

end Client

/-! ## The process -/

structure Process where
  instances : ℕ → Option Client := fun _ => none
  copyForC : Getter → String := fun _ => ""  -- of the getters that have one
  pointers : ℕ → Getter → Bool := fun _ _ => false  -- the last one returned is not null

/-- A call on instance `k`. -/
structure ProcessAction where
  k : ℕ
  call : ClientCall

namespace Process

/-- The text a getter finds. -/
def text (s : Process) (k : ℕ) (getter : Getter) : Option String :=
  (s.instances k).bind fun client => getter.text client.members

/-- A getter copies its text, if it has a copy, and returns a pointer. -/
def returnPointer (s : Process) (k : ℕ) (getter : Getter) : Process :=
  { s with
    copyForC :=
      match s.text k getter with
      | some text =>
          if getter.isStatic then Function.update s.copyForC getter text else s.copyForC
      | none => s.copyForC
    pointers :=
      Function.update s.pointers k
        (Function.update (s.pointers k) getter (s.text k getter).isSome) }

/-- What a call does besides to its instance. -/
def afterCall (s : Process) (k : ℕ) : ClientCall → Process
  | .get getter => s.returnPointer k getter
  | _ => s

def setInstance (s : Process) (k : ℕ) (client : Option Client) : Process :=
  { s with instances := Function.update s.instances k client }

def step (s : Process) (a : ProcessAction) : Option (Process × List (ℕ × Observed)) :=
  (Client.step (s.instances a.k) a.call).map fun r =>
    ((s.afterCall a.k a.call).setInstance a.k r.1, r.2.map (a.k, ·))

/-- The characters that can be read through the pointer last returned: those in the static
string, or those in the member of the instance, as long as it is there. -/
def readable (s : Process) (k : ℕ) (getter : Getter) : Option String :=
  if s.pointers k getter then
    if getter.isStatic then some (s.copyForC getter) else s.text k getter
  else none

end Process

/-- The calls on all instances as a machine. -/
def processMachine : Machine Process ProcessAction (ℕ × Observed) := ⟨Process.step⟩

/-! ## The property and its condition -/

/-- The call is on `b`. -/
def ProcessAction.on (b : ℕ) (a : ProcessAction) : Bool := a.k = b

/-- What is shown of `k`. -/
def observedOf (k : ℕ) (e : ℕ × Observed) : Option Observed :=
  if e.1 = k then some e.2 else none

/-- **Without the calls on `b`** the calls go through, show the same of `k`, and leave the same
to be read through its pointers. -/
def SameWithoutCalls (k b : ℕ) (l : List ProcessAction) : Prop :=
  ∃ s es s' es', processMachine.exec {} l = some (s, es) ∧
    processMachine.exec {} (Machine.purge (ProcessAction.on b) l) = some (s', es') ∧
    es.filterMap (observedOf k) = es'.filterMap (observedOf k) ∧
    ∀ getter, s.readable k getter = s'.readable k getter

/-- `getAccessToken` and `getCredential` are called on `b` only where no pointer that they
last returned for `k` is left, or with the text that it points to. -/
def LeavesCopies (k b : ℕ) (s : Process) (a : ProcessAction) : Prop :=
  a.k = b → ∀ getter text, a.call = .get getter → getter.isStatic = true →
    s.pointers k getter = true → s.text b getter = some text → text = s.copyForC getter

/-! ## With and without the calls on one instance -/

section

variable {s s' t : Process} {a : ProcessAction} {out : List (ℕ × Observed)} {k b : ℕ}
  {getter : Getter} {text : String}

/-- **Inversion of a step.** -/
theorem Process.exists_of_step (h : processMachine.step s a = some (s', out)) :
    ∃ client observed, Client.step (s.instances a.k) a.call = some (client, observed) ∧
      s' = (s.afterCall a.k a.call).setInstance a.k client ∧ out = observed.map (a.k, ·) := by
  have hstep : s.step a = some (s', out) := h
  rw [Process.step, Option.map_eq_some_iff] at hstep
  obtain ⟨⟨client, observed⟩, hclient, heq⟩ := hstep
  rw [Prod.mk.injEq] at heq
  exact ⟨client, observed, hclient, heq.1.symm, heq.2.symm⟩

@[simp] theorem Process.instances_afterCall (s : Process) (k : ℕ) (call : ClientCall) :
    (s.afterCall k call).instances = s.instances := by
  cases call <;> rfl

/-- A call leaves the pointers of the other instances. -/
theorem Process.pointers_afterCall_of_ne {k' : ℕ} (hne : k' ≠ k) (call : ClientCall) :
    (s.afterCall k call).pointers k' = s.pointers k' := by
  cases call with
  | get getter => exact Function.update_of_ne hne ..
  | _ => rfl

/-- And a call that is not one of the getter leaves its pointers. -/
theorem Process.pointers_afterCall_of_not_get {k' : ℕ} {call : ClientCall}
    (h : call ≠ .get getter) : (s.afterCall k call).pointers k' getter = s.pointers k' getter := by
  cases call with
  | get getter' =>
      have hne : getter ≠ getter' := by
        rintro rfl
        exact h rfl
      show Function.update s.pointers k _ k' getter = s.pointers k' getter
      by_cases hk : k' = k
      · rw [hk, Function.update_self, Function.update_of_ne hne]
      · rw [Function.update_of_ne hk]
  | _ => rfl

/-- A getter that finds no text returns a null pointer. -/
theorem Process.pointers_returnPointer :
    (s.returnPointer k getter).pointers k getter = (s.text k getter).isSome := by
  show Function.update s.pointers k (Function.update (s.pointers k) getter _) k getter = _
  rw [Function.update_self, Function.update_self]

/-- A getter that finds a text copies it, if it has a copy. -/
theorem Process.copyForC_returnPointer (hstatic : getter.isStatic = true)
    (htext : s.text k getter = some text) :
    (s.returnPointer k getter).copyForC getter = text := by
  unfold Process.returnPointer
  simp only [htext, hstatic, if_true, Function.update_self]

/-- A getter that finds no text leaves its copy. -/
theorem Process.copyForC_returnPointer_of_none (htext : s.text k getter = none) :
    (s.returnPointer k getter).copyForC getter = s.copyForC getter := by
  unfold Process.returnPointer
  simp only [htext]

/-- And so does a call that is not one of the getter. -/
theorem Process.copyForC_afterCall_of_not_get {call : ClientCall} (h : call ≠ .get getter) :
    (s.afterCall k call).copyForC getter = s.copyForC getter := by
  cases call with
  | get getter' =>
      have hne : getter ≠ getter' := by
        rintro rfl
        exact h rfl
      show (s.returnPointer k getter').copyForC getter = s.copyForC getter
      unfold Process.returnPointer
      rcases s.text k getter' with _ | text
      · rfl
      · dsimp only
        split
        · exact Function.update_of_ne hne ..
        · rfl
  | _ => rfl

/-- **The processes with and without the calls on `b`**, as they are seen from `k`. -/
structure SameBut (k b : ℕ) (s t : Process) : Prop where
  instances : ∀ j, j ≠ b → t.instances j = s.instances j
  pointers : ∀ j, j ≠ b → t.pointers j = s.pointers j
  copies : ∀ getter, getter.isStatic = true → s.pointers k getter = true →
    t.copyForC getter = s.copyForC getter

/-- The same can be read through the pointers. -/
theorem SameBut.readable (h : SameBut k b s t) (hne : k ≠ b) (getter : Getter) :
    s.readable k getter = t.readable k getter := by
  unfold Process.readable Process.text
  rw [h.pointers k hne, h.instances k hne]
  split
  · rename_i hpointer
    split
    · rename_i hstatic
      rw [h.copies getter hstatic hpointer]
    · rfl
  · rfl

/-- **A call on `b`.** -/
theorem SameBut.hidden (h : SameBut k b s t) (hne : k ≠ b) (ha : a.on b = true)
    (hC : LeavesCopies k b s a) (hs : processMachine.step s a = some (s', out)) :
    SameBut k b s' t ∧ out.filterMap (observedOf k) = [] := by
  have hk : a.k = b := by simpa [ProcessAction.on] using ha
  obtain ⟨client, observed, -, rfl, rfl⟩ := Process.exists_of_step hs
  rw [hk]
  constructor
  · constructor
    · intro j hj
      show t.instances j = Function.update (s.afterCall b a.call).instances b client j
      rw [Function.update_of_ne hj, Process.instances_afterCall]
      exact h.instances j hj
    · intro j hj
      show t.pointers j = (s.afterCall b a.call).pointers j
      rw [Process.pointers_afterCall_of_ne hj]
      exact h.pointers j hj
    · intro getter hstatic hpointer
      replace hpointer : (s.afterCall b a.call).pointers k getter = true := hpointer
      rw [Process.pointers_afterCall_of_ne hne] at hpointer
      rw [h.copies getter hstatic hpointer]
      show s.copyForC getter = (s.afterCall b a.call).copyForC getter
      by_cases hget : a.call = .get getter
      · rw [hget]
        rcases htext : s.text b getter with _ | text
        · exact (Process.copyForC_returnPointer_of_none htext).symm
        · -- the text that is copied is the one that is there
          rw [← hC hk getter text hget hstatic hpointer htext]
          exact (Process.copyForC_returnPointer hstatic htext).symm
      · exact (Process.copyForC_afterCall_of_not_get hget).symm
  · rw [List.filterMap_eq_nil_iff]
    intro e he
    obtain ⟨o, -, rfl⟩ := List.mem_map.mp he
    exact if_neg hne.symm

/-- **A call on another instance** goes the same way. -/
theorem SameBut.visible (h : SameBut k b s t) (ha : a.on b = false)
    (hs : processMachine.step s a = some (s', out)) :
    ∃ t', processMachine.step t a = some (t', out) ∧ SameBut k b s' t' := by
  have hk : a.k ≠ b := by simpa [ProcessAction.on] using ha
  obtain ⟨client, observed, hclient, rfl, rfl⟩ := Process.exists_of_step hs
  have htext : ∀ getter, t.text a.k getter = s.text a.k getter := by
    intro getter
    unfold Process.text
    rw [h.instances a.k hk]
  refine ⟨(t.afterCall a.k a.call).setInstance a.k client, ?_, ?_⟩
  · show t.step a = _
    rw [Process.step, h.instances a.k hk, hclient]
    rfl
  · have hpointers : ∀ j, j ≠ b →
        (t.afterCall a.k a.call).pointers j = (s.afterCall a.k a.call).pointers j := by
      intro j hj
      by_cases hjk : j = a.k
      · rw [hjk]
        cases a.call with
        | get getter =>
            show Function.update t.pointers a.k _ a.k = Function.update s.pointers a.k _ a.k
            rw [Function.update_self, Function.update_self, htext, h.pointers a.k hk]
        | _ => exact h.pointers a.k hk
      · rw [Process.pointers_afterCall_of_ne hjk, Process.pointers_afterCall_of_ne hjk]
        exact h.pointers j hj
    constructor
    · intro j hj
      show Function.update (t.afterCall a.k a.call).instances a.k client j =
        Function.update (s.afterCall a.k a.call).instances a.k client j
      by_cases hjk : j = a.k
      · rw [hjk, Function.update_self, Function.update_self]
      · rw [Function.update_of_ne hjk, Function.update_of_ne hjk, Process.instances_afterCall,
          Process.instances_afterCall]
        exact h.instances j hj
    · exact hpointers
    · intro getter hstatic hpointer
      replace hpointer : (s.afterCall a.k a.call).pointers k getter = true := hpointer
      show (t.afterCall a.k a.call).copyForC getter = (s.afterCall a.k a.call).copyForC getter
      by_cases hget : a.call = .get getter
      · rw [hget] at hpointer ⊢
        rcases hfound : s.text a.k getter with _ | text
        · -- the getter finds no text, and the pointer is one of before
          have hother : k ≠ a.k := by
            rintro rfl
            have hnull : (s.returnPointer a.k getter).pointers a.k getter =
                (s.text a.k getter).isSome := Process.pointers_returnPointer
            rw [hfound] at hnull
            rw [Process.afterCall, hnull] at hpointer
            cases hpointer
          rw [Process.pointers_afterCall_of_ne hother] at hpointer
          exact (Process.copyForC_returnPointer_of_none ((htext getter).trans hfound)).trans
            ((h.copies getter hstatic hpointer).trans
              (Process.copyForC_returnPointer_of_none hfound).symm)
        · exact (Process.copyForC_returnPointer hstatic ((htext getter).trans hfound)).trans
            (Process.copyForC_returnPointer hstatic hfound).symm
      · rw [Process.pointers_afterCall_of_not_get hget] at hpointer
        rw [Process.copyForC_afterCall_of_not_get hget,
          Process.copyForC_afterCall_of_not_get hget]
        exact h.copies getter hstatic hpointer

theorem sameBut_init (k b : ℕ) : SameBut k b {} {} where
  instances _ _ := rfl
  pointers _ _ := rfl
  copies _ _ _ := rfl

/-- **Unwinding**: the calls on `b` are hidden from what is shown of `k`. -/
theorem sameBut_unwinding (hne : k ≠ b) :
    Machine.Unwinding processMachine (ProcessAction.on b) (LeavesCopies k b) (observedOf k)
      (SameBut k b) := by
  constructor
  · intro s a s' out t hR hC ha hs
    exact hR.hidden hne ha hC hs
  · intro s a s' out t hR hC ha hs
    obtain ⟨t', hs', hR'⟩ := hR.visible ha hs
    exact ⟨t', out, hs', hR', rfl⟩

/-- A run that meets the condition is the same without the calls on `b`. -/
theorem sameWithoutCalls_of_meets {tr : List (Process × ProcessAction)}
    {es : List (ℕ × Observed)} (hne : k ≠ b) (hrun : processMachine.Run {} tr es s)
    (hmeets : Machine.Meets (LeavesCopies k b) tr) :
    SameWithoutCalls k b (tr.map Prod.snd) := by
  obtain ⟨t, tr', es', hrun', hinputs, hR, hview⟩ :=
    (sameBut_unwinding hne).run hrun hmeets (sameBut_init k b)
  refine ⟨s, es, t, es', hrun.exec_eq, ?_, hview, hR.readable hne⟩
  rw [← hinputs]
  exact hrun'.exec_eq

/-- A call on `b` that does not change what is seen of `k` leaves the copies. -/
theorem leavesCopies_of_sameWithoutCalls {tr : List (Process × ProcessAction)}
    {es : List (ℕ × Observed)} (hne : k ≠ b) (hrun : processMachine.Run {} tr es s)
    (hs : processMachine.step s a = some (s', out))
    (hbefore : SameWithoutCalls k b (tr.map Prod.snd))
    (hafter : SameWithoutCalls k b (tr.map Prod.snd ++ [a])) : LeavesCopies k b s a := by
  intro hk getter text hget hstatic hpointer htext
  have hon : a.on b = true := by simpa [ProcessAction.on] using hk
  obtain ⟨s₁, es₁, t₁, et₁, hexec₁, hpurged₁, -, hread₁⟩ := hbefore
  obtain ⟨s₂, es₂, t₂, et₂, hexec₂, hpurged₂, -, hread₂⟩ := hafter
  rw [hrun.exec_eq, Option.some.injEq, Prod.mk.injEq] at hexec₁
  rw [Machine.exec_snoc hrun.exec_eq hs, Option.some.injEq, Prod.mk.injEq] at hexec₂
  -- without the call on `b` the two are the same run
  rw [Machine.purge_snoc_of_hidden hon, hpurged₁, Option.some.injEq, Prod.mk.injEq] at hpurged₂
  have hread := (hread₁ getter).trans (hpurged₂.1 ▸ (hread₂ getter).symm)
  rw [← hexec₁.1, ← hexec₂.1] at hread
  obtain ⟨client, observed, -, rfl, -⟩ := Process.exists_of_step hs
  have hpointer' : (s.afterCall a.k a.call).pointers k getter = true := by
    rw [hk, Process.pointers_afterCall_of_ne hne]
    exact hpointer
  have hcopy : (s.afterCall a.k a.call).copyForC getter = text := by
    rw [hk, hget]
    exact Process.copyForC_returnPointer hstatic htext
  have hreadable : (s.readable k getter) = some (s.copyForC getter) := by
    rw [Process.readable, if_pos hpointer, if_pos hstatic]
  have hreadable' : ((s.afterCall a.k a.call).setInstance a.k client).readable k getter =
      some text := by
    unfold Process.readable
    show (if (s.afterCall a.k a.call).pointers k getter = true then
      if getter.isStatic = true then some ((s.afterCall a.k a.call).copyForC getter) else _
      else none) = some text
    rw [if_pos hpointer', if_pos hstatic, hcopy]
  rw [hreadable, hreadable', Option.some.injEq] at hread
  exact hread.symm

end

/-! ## Interference -/

/-- **Interference between instances.**  At every time of a run what its caller has been shown
of instance `k`, and what can be read through the pointers last returned for it, is the same
as without all calls on instance `b`, exactly if the calls on `b` leave the copies that `k`
has pointers to. -/
theorem sameWithoutCalls_iff {k b : ℕ} (hne : k ≠ b) {tr : List (Process × ProcessAction)}
    {es : List (ℕ × Observed)} {s : Process} (hrun : processMachine.Run {} tr es s) :
    (∀ l, l <+: tr.map Prod.snd → SameWithoutCalls k b l) ↔
      Machine.Meets (LeavesCopies k b) tr := by
  constructor
  · intro hsame
    induction hrun with
    | refl => exact Machine.meets_nil _
    | @snoc s s' tr es out a hrun hs ih =>
        rw [List.map_append] at hsame
        have hinit : tr.map Prod.snd <+: tr.map Prod.snd ++ [a] := List.prefix_append ..
        rw [Machine.meets_snoc]
        constructor
        · apply ih
          intro l hl
          exact hsame l (hl.trans hinit)
        · exact leavesCopies_of_sameWithoutCalls hne hrun hs (hsame _ hinit)
            (hsame _ (List.prefix_refl _))
  · intro hmeets
    induction hrun with
    | refl =>
        intro l hl
        rw [List.prefix_nil.mp hl]
        exact sameWithoutCalls_of_meets hne (.refl _) (Machine.meets_nil _)
    | @snoc s s' tr es out a hrun hs ih =>
        intro l hl
        rw [List.map_append] at hl
        rcases List.prefix_concat_iff.mp hl with rfl | hl
        · have hwhole := sameWithoutCalls_of_meets hne (hrun.snoc hs) hmeets
          rwa [List.map_append] at hwhole
        · exact ih (Machine.meets_snoc.mp hmeets).1 l hl

/-- Two instances sign in; the credentials of the second are refreshed in the background. -/
def signInTwo (credentials : Credentials) : List ProcessAction :=
  [⟨0, .createInstance fullUser⟩, ⟨1, .createInstance fullUser⟩,
    ⟨0, .call ⟨.refreshAuth (toBytes "saved"), fullUser, 1⟩⟩,
    ⟨1, .call ⟨.refreshAuth (toBytes "saved"), fullUser, 1⟩⟩,
    ⟨1, .call ⟨.refreshInBackground credentials, fullUser, 1⟩⟩]

/-- The pointer of the first instance is to its own token when no other is asked for after. -/
theorem sameWithoutCalls_iff_askedBefore :
    ∃ tr es s, processMachine.Run {} tr es s ∧
      s.readable 0 .getAccessToken = some "access" ∧
      ((∀ l, l <+: tr.map Prod.snd → SameWithoutCalls 0 1 l) ↔
        Machine.Meets (LeavesCopies 0 1) tr) := by
  have hread : (processMachine.exec {}
      (signInTwo { credentialsOfMaya with accessToken := "other" } ++
        [⟨1, .get .getAccessToken⟩, ⟨0, .get .getAccessToken⟩])).any
      (fun r => r.1.readable 0 .getAccessToken = some "access") = true := by
    decide +kernel
  obtain ⟨⟨s, es⟩, hexec, hs⟩ := (Option.any_eq_true _ _).mp hread
  exact ⟨_, es, s, .of_exec hexec, by simpa using hs,
    sameWithoutCalls_iff (by decide) (.of_exec hexec)⟩

/-- The second instance is asked for its token after the first one. -/
def askedAfter : List ProcessAction :=
  signInTwo { credentialsOfMaya with accessToken := "other" } ++
    [⟨0, .get .getAccessToken⟩, ⟨1, .get .getAccessToken⟩]

/-- The pointer of the first instance then shows the token of the second. -/
theorem not_sameWithoutCalls_askedAfter :
    ∃ s es s' es', processMachine.exec {} askedAfter = some (s, es) ∧
      processMachine.exec {} (Machine.purge (ProcessAction.on 1) askedAfter) = some (s', es') ∧
      s.readable 0 .getAccessToken = some "other" ∧
      s'.readable 0 .getAccessToken = some "access" ∧ ¬ SameWithoutCalls 0 1 askedAfter := by
  have hother : (processMachine.exec {} askedAfter).any
      (fun r => r.1.readable 0 .getAccessToken = some "other") = true := by
    decide +kernel
  have hown : (processMachine.exec {} (Machine.purge (ProcessAction.on 1) askedAfter)).any
      (fun r => r.1.readable 0 .getAccessToken = some "access") = true := by
    decide +kernel
  obtain ⟨⟨s, es⟩, hexec, hs⟩ := (Option.any_eq_true _ _).mp hother
  obtain ⟨⟨s', es'⟩, hexec', hs'⟩ := (Option.any_eq_true _ _).mp hown
  rw [decide_eq_true_eq] at hs hs'
  refine ⟨s, es, s', es', hexec, hexec', hs, hs', ?_⟩
  rintro ⟨t, et, t', et', hexec₁, hexec₁', -, hread⟩
  rw [hexec, Option.some.injEq, Prod.mk.injEq] at hexec₁
  rw [hexec', Option.some.injEq, Prod.mk.injEq] at hexec₁'
  have hsame := hread .getAccessToken
  rw [← hexec₁.1, ← hexec₁'.1, hs, hs'] at hsame
  exact absurd hsame (by decide)

end Caff
