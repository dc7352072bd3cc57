/-
# Sending only what has changed

A client stores a value and a server has a view of it.  A call sets the value, and makes a
request to the server only if that changes it; the request may be processed or not, and
may be answered or not.  After a call that makes no request the server is up to date only
if it was before.

* `ChangeDetection.run` : both sides after some calls;
* `ChangeDetection.Settled` : the server is up to date, in terms of the calls alone;
* `ChangeDetection.settled_iff` : it is then, and only then;
* `ChangeDetection.upToDate_iff` : when a call that made no request, or whose request
  succeeded, leaves the server up to date.
-/
import Mathlib.Data.List.Induction
import Mathlib.Tactic.Common

namespace ChangeDetection

variable {V S : Type*}

/-- The value of the client and the view of the server. -/
structure Copies (V S : Type*) where
  stored : V
  server : S

/-- A call, with what becomes of its request if it makes one. -/
structure Call (V : Type*) where
  set : V → V
  processed : Bool
  succeeded : Bool
  processed_of_succeeded : succeeded = true → processed = true

/-- The call changes the stored value. -/
def Call.Changes (call : Call V) (v : V) : Prop := call.set v ≠ v

instance [DecidableEq V] (call : Call V) (v : V) : Decidable (call.Changes v) :=
  inferInstanceAs (Decidable (_ ≠ _))

/-- The stored value after some calls. -/
def storedAfter (v : V) (calls : List (Call V)) : V := calls.foldl (fun v call => call.set v) v

/-- No request of the calls was processed. -/
def NoneProcessed (v : V) (calls : List (Call V)) : Prop :=
  ∀ before call after, calls = before ++ call :: after →
    call.Changes (storedAfter v before) → call.processed = false

section

variable [DecidableEq V] (view : V → S)

/-- One call. -/
def step (c : Copies V S) (call : Call V) : Copies V S :=
  if call.Changes c.stored then
    { stored := call.set c.stored
      server := if call.processed then view (call.set c.stored) else c.server }
  else c

/-- Both sides after some calls. -/
def run (c : Copies V S) (calls : List (Call V)) : Copies V S := calls.foldl (step view) c

def UpToDate (c : Copies V S) : Prop := c.server = view c.stored

/-- After the last request that was processed, the calls have left the view as it was sent,
or as it was at first if there is none. -/
def Settled (v : V) (server : S) (calls : List (Call V)) : Prop :=
  (∃ before call after, calls = before ++ call :: after ∧
    call.Changes (storedAfter v before) ∧ call.processed = true ∧
    NoneProcessed (storedAfter v (before ++ [call])) after ∧
    view (storedAfter v (before ++ [call])) = view (storedAfter v calls)) ∨
  NoneProcessed v calls ∧ server = view (storedAfter v calls)

end

section

variable {v : V} {call : Call V} {calls before after : List (Call V)}

theorem storedAfter_append :
    storedAfter v (before ++ after) = storedAfter (storedAfter v before) after :=
  List.foldl_append

theorem noneProcessed_nil : NoneProcessed v ([] : List (Call V)) := by
  intro before call after h
  simp at h

/-- One more call. -/
theorem noneProcessed_snoc : NoneProcessed v (calls ++ [call]) ↔
    NoneProcessed v calls ∧ (call.Changes (storedAfter v calls) → call.processed = false) := by
  constructor
  · intro h
    constructor
    · intro before call' after hcalls
      exact h before call' (after ++ [call]) (by rw [hcalls, List.append_assoc, List.cons_append])
    · exact h calls call [] rfl
  · rintro ⟨h, hlast⟩ before call' after hcalls
    rcases List.eq_nil_or_concat after with rfl | ⟨after, last, rfl⟩
    · obtain ⟨rfl, hsame⟩ := List.append_inj' hcalls rfl
      obtain rfl := List.singleton_inj.mp hsame
      exact hlast
    · rw [List.concat_eq_append, ← List.cons_append, ← List.append_assoc] at hcalls
      obtain ⟨rfl, -⟩ := List.append_inj' hcalls rfl
      exact h before call' after rfl

variable [DecidableEq V] {view : V → S} {c : Copies V S}

theorem step_of_changes (h : call.Changes c.stored) :
    step view c call = { stored := call.set c.stored
                         server := if call.processed then view (call.set c.stored)
                                   else c.server } :=
  if_pos h

theorem step_of_not_changes (h : ¬ call.Changes c.stored) : step view c call = c := if_neg h

theorem stored_step : (step view c call).stored = call.set c.stored := by
  by_cases h : call.Changes c.stored
  · rw [step_of_changes h]
  · rw [step_of_not_changes h]
    exact (not_not.mp h).symm

theorem run_snoc : run view c (calls ++ [call]) = step view (run view c calls) call := by
  unfold run
  rw [List.foldl_append]
  rfl

/-- What is stored does not depend on what becomes of the requests. -/
theorem stored_run (view : V → S) : (run view c calls).stored = storedAfter c.stored calls := by
  induction calls using List.reverseRecOn with
  | nil => rfl
  | append_singleton calls call ih =>
      rw [run_snoc, stored_step, ih, storedAfter_append]
      rfl

/-- Without a processed request the server keeps what it has. -/
theorem server_run_of_noneProcessed (h : NoneProcessed c.stored calls) :
    (run view c calls).server = c.server := by
  induction calls using List.reverseRecOn with
  | nil => rfl
  | append_singleton calls call ih =>
      obtain ⟨hbefore, hlast⟩ := noneProcessed_snoc.mp h
      rw [← stored_run view] at hlast
      rw [run_snoc]
      by_cases hchanges : call.Changes (run view c calls).stored
      · rw [step_of_changes hchanges, hlast hchanges]
        exact ih hbefore
      · rw [step_of_not_changes hchanges]
        exact ih hbefore

/-- The calls up to the last request that was processed, if there is one, and the others. -/
theorem noneProcessed_or_exists_last (v : V) (calls : List (Call V)) :
    NoneProcessed v calls ∨
      ∃ before call after, calls = before ++ call :: after ∧
        call.Changes (storedAfter v before) ∧ call.processed = true ∧
        NoneProcessed (storedAfter v (before ++ [call])) after := by
  induction calls using List.reverseRecOn with
  | nil => exact .inl noneProcessed_nil
  | append_singleton calls call ih =>
      by_cases hlast : call.Changes (storedAfter v calls) ∧ call.processed = true
      · exact .inr ⟨calls, call, [], rfl, hlast.1, hlast.2, noneProcessed_nil⟩
      · have hnone : call.Changes (storedAfter v calls) → call.processed = false := by
          intro hchanges
          exact Bool.eq_false_iff.mpr fun hprocessed => hlast ⟨hchanges, hprocessed⟩
        rcases ih with hbefore | ⟨before, call', after, rfl, hchanges, hprocessed, hafter⟩
        · exact .inl (noneProcessed_snoc.mpr ⟨hbefore, hnone⟩)
        · refine .inr ⟨before, call', after ++ [call], ?_, hchanges, hprocessed, ?_⟩
          · rw [List.append_assoc, List.cons_append]
          · apply noneProcessed_snoc.mpr
            rw [← storedAfter_append, List.append_assoc, List.singleton_append]
            exact ⟨hafter, hnone⟩

theorem run_append : run view c (before ++ after) = run view (run view c before) after :=
  List.foldl_append

/-- A processed request brings the server what is stored. -/
theorem upToDate_of_processed (hchanges : call.Changes c.stored)
    (hprocessed : call.processed = true) : UpToDate view (step view c call) := by
  unfold UpToDate
  rw [step_of_changes hchanges, hprocessed]
  rfl

/-- What the server has after its last request. -/
theorem server_run_of_last (hchanges : call.Changes (storedAfter c.stored before))
    (hprocessed : call.processed = true)
    (hafter : NoneProcessed (storedAfter c.stored (before ++ [call])) after) :
    (run view c (before ++ call :: after)).server =
      view (storedAfter c.stored (before ++ [call])) := by
  rw [← stored_run view] at hchanges hafter
  have hsent : UpToDate view (run view c (before ++ [call])) := by
    rw [run_snoc]
    exact upToDate_of_processed hchanges hprocessed
  have hsplit : before ++ call :: after = (before ++ [call]) ++ after := by
    rw [List.append_assoc, List.singleton_append]
  rw [hsplit, run_append, server_run_of_noneProcessed hafter, ← stored_run view]
  exact hsent

/-- **Settled calls** are those after which the server is up to date. -/
theorem settled_iff : Settled view c.stored c.server calls ↔ UpToDate view (run view c calls) := by
  unfold UpToDate Settled
  rw [stored_run]
  constructor
  · rintro (⟨before, call, after, rfl, hchanges, hprocessed, hafter, hview⟩ | ⟨hnone, hserver⟩)
    · rw [server_run_of_last hchanges hprocessed hafter, hview]
    · rw [server_run_of_noneProcessed hnone, hserver]
  · intro h
    rcases noneProcessed_or_exists_last c.stored calls with
      hnone | ⟨before, call, after, rfl, hchanges, hprocessed, hafter⟩
    · rw [server_run_of_noneProcessed hnone] at h
      exact .inr ⟨hnone, h⟩
    · rw [server_run_of_last hchanges hprocessed hafter] at h
      exact .inl ⟨before, call, after, rfl, hchanges, hprocessed, hafter, h⟩

/-- **The last call.**  If it made no request or succeeded the server is up to date, exactly
if it changes the value or the calls are settled. -/
theorem upToDate_iff : (¬ call.Changes (storedAfter c.stored calls) ∨ call.succeeded = true →
      UpToDate view (run view c (calls ++ [call]))) ↔
    (call.Changes (storedAfter c.stored calls) ∨
      Settled view c.stored c.server (calls ++ [call])) := by
  rw [settled_iff]
  constructor
  · intro h
    by_cases hchanges : call.Changes (storedAfter c.stored calls)
    · exact .inl hchanges
    · exact .inr (h (.inl hchanges))
  · intro h hlast
    by_cases hchanges : call.Changes (storedAfter c.stored calls)
    · rw [run_snoc]
      have hsucceeded := hlast.resolve_left (not_not.mpr hchanges)
      rw [← stored_run view] at hchanges
      exact upToDate_of_processed hchanges (call.processed_of_succeeded hsucceeded)
    · exact h.resolve_left hchanges

end

end ChangeDetection
