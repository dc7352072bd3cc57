/-
# The connection quality of a heartbeat

A connection quality comes in with a heartbeat and goes out with the next update of the
feed, where it is a `SourceConnectionQuality`.  Each of the two enumerations is read with a
table of its own, and a value that is in neither is read as the first of each.
-/
import Caffeine.CaffQL
import Caffeine.Heartbeats

namespace Caff

open Caffql (SourceConnectionQuality)

/-! ## Two tables -/

/-- The table of `src/Serialization.hpp`, in its order. -/
def ConnectionQuality.table : EnumTable ConnectionQuality :=
  { first := (.good, some "GOOD")
    rest := [(.poor, some "POOR"), (.unknown, none)] }

/-- The quality by the name it has for feeds. -/
def ConnectionQuality.source : ConnectionQuality → SourceConnectionQuality
  | .good => .good
  | .poor => .poor
  | .unknown => .unknown

/-- The `sourceConnectionQuality` of `currentFeedInput`. -/
def World.sourceConnectionQuality (s : World) : Option SourceConnectionQuality :=
  match s.connectionQuality with
  | .good => some .good
  | .poor => some .poor
  | .unknown => none

/-- The values of the tables. -/
def Recognised (v : Json) : Prop := v = .string "GOOD" ∨ v = .string "POOR" ∨ v = .null

/-- What is read of the value is what feeds read of it: the quality it names, and an unknown
one if it names none. -/
structure ReadAsForFeeds (v : Json) : Prop where
  agrees : (ConnectionQuality.fromJson v).source = SourceConnectionQuality.table.fromJson v
  good : v = .string "GOOD" → ConnectionQuality.fromJson v = .good
  poor : v = .string "POOR" → ConnectionQuality.fromJson v = .poor
  other : v ≠ .string "GOOD" → v ≠ .string "POOR" → ConnectionQuality.fromJson v = .unknown

section

variable {v : Json}

/-- The tables hold the same pairs, in another order. -/
theorem pairs_perm : SourceConnectionQuality.table.pairs.Perm
    (ConnectionQuality.table.pairs.map fun pair => (pair.1.source, pair.2)) := by
  decide

theorem recognised_iff :
    Recognised v ↔ ∃ pair ∈ ConnectionQuality.table.pairs, v = Json.ofName pair.2 := by
  simp [Recognised, ConnectionQuality.table, EnumTable.pairs, Json.ofName]

/-- The name of a quality is read as that quality by both tables. -/
theorem connectionQuality_recognised {pair : ConnectionQuality × Option String}
    (hmem : pair ∈ ConnectionQuality.table.pairs) :
    ConnectionQuality.table.fromJson (Json.ofName pair.2) = pair.1 ∧
      SourceConnectionQuality.table.fromJson (Json.ofName pair.2) = pair.1.source := by
  have hdistinct : ConnectionQuality.table.Distinct := by
    unfold EnumTable.Distinct
    decide
  have hdistinct' : SourceConnectionQuality.table.Distinct := by
    unfold EnumTable.Distinct
    decide
  constructor
  · exact EnumTable.fromJson_of_mem hdistinct hmem
  · apply EnumTable.fromJson_of_mem hdistinct'
    exact pairs_perm.mem_iff.mpr (List.mem_map_of_mem hmem)

/-- What is in none of the two tables is the first of each. -/
theorem connectionQuality_unrecognised (h : ¬ Recognised v) :
    ConnectionQuality.table.fromJson v = .good ∧
      SourceConnectionQuality.table.fromJson v = .unknown := by
  have hpairs : ∀ pair ∈ ConnectionQuality.table.pairs, v ≠ Json.ofName pair.2 :=
    fun pair hmem hname => h (recognised_iff.mpr ⟨pair, hmem, hname⟩)
  constructor
  · exact EnumTable.fromJson_of_unmatched hpairs
  · apply EnumTable.fromJson_of_unmatched
    intro pair hmem
    obtain ⟨pair', hmem', rfl⟩ := List.mem_map.mp (pairs_perm.mem_iff.mp hmem)
    exact hpairs pair' hmem'

/-- The reader is the table. -/
theorem connectionQuality_fromJson_eq (v : Json) :
    ConnectionQuality.fromJson v = ConnectionQuality.table.fromJson v := by
  by_cases hv : Recognised v
  · rcases hv with rfl | rfl | rfl <;> rfl
  · rw [(connectionQuality_unrecognised hv).1]
    unfold ConnectionQuality.fromJson
    split
    · rfl
    · exact absurd (Or.inr (Or.inl rfl)) hv
    · exact absurd (Or.inr (Or.inr rfl)) hv
    · rfl

/-- **The tables** agree on the values they hold, and on no other. -/
theorem readAsForFeeds_iff : ReadAsForFeeds v ↔ Recognised v := by
  constructor
  · intro h
    by_contra hv
    have hagrees := h.agrees
    rw [connectionQuality_fromJson_eq, (connectionQuality_unrecognised hv).1,
      (connectionQuality_unrecognised hv).2] at hagrees
    cases hagrees
  · intro hv
    constructor
    · obtain ⟨pair, hmem, rfl⟩ := recognised_iff.mp hv
      rw [connectionQuality_fromJson_eq, (connectionQuality_recognised hmem).1,
        (connectionQuality_recognised hmem).2]
    · rintro rfl
      rfl
    · rintro rfl
      rfl
    · intro hgood hpoor
      rw [(hv.resolve_left hgood).resolve_left hpoor]
      rfl

end

/-! ## From the heartbeats to the application and the feed -/

/-- The quality of the broadcast is one that a heartbeat brought, or the one it was
constructed with, and so is one that is still to be stored. -/
structure QualityOrigin (tr : List (World × Action)) (w : World) : Prop where
  stored : w.connectionQuality = .unknown ∨ some w.connectionQuality ∈ answers tr
  pending : ∀ quality, w.thread = .storeQuality quality → some quality ∈ answers tr

section

variable {tr : List (World × Action)} {es : List Event} {w w' : World} {a : Action} {o : Outcome}
  {out : List Event} {quality : ConnectionQuality}

/-- The thread stores no other quality than the one it was brought, -/
theorem ThreadMoves.stored (h : ThreadMoves w o w' out) :
    w'.connectionQuality = w.connectionQuality ∨
      w.thread = .storeQuality w'.connectionQuality := by
  cases h with
  | advance p hs hok => cases p <;> exact .inl rfl
  | newQuality quality hs hq => exact .inr hs
  | _ => exact .inl rfl

/-- and comes to store one by the answer to a heartbeat. -/
theorem ThreadMoves.brought (h : ThreadMoves w o w' out)
    (hthread : w'.thread = .storeQuality quality) : o = .heartbeat (some quality) := by
  cases h with
  | advance p hs hok => cases p <;> cases hthread
  | giveUp o p error exit hs ho hg =>
      rw [World.goto_thread] at hthread
      rw [hthread] at hg
      cases p <;> cases hg
  | beatAnswered failures quality hs =>
      cases hthread
      rfl
  | _ => cases hthread

theorem mem_answers_snoc {response : Option ConnectionQuality} (h : response ∈ answers tr) :
    response ∈ answers (tr ++ [(w, a)]) := by
  unfold answers at h ⊢
  rw [List.filterMap_append]
  exact List.mem_append_left _ h

/-- **Step lemma.** -/
theorem QualityOrigin.step (h : QualityOrigin tr w) (hstep : w.step a = some (w', out)) :
    QualityOrigin (tr ++ [(w, a)]) w' := by
  rcases (moves_of_step hstep).cases_thread with ⟨o, rfl, hmoves, -⟩ | ⟨ha, -, hthread⟩
  · constructor
    · rcases hmoves.stored with hsame | hs
      · rw [hsame]
        exact h.stored.imp_right mem_answers_snoc
      · exact .inr (mem_answers_snoc (h.pending _ hs))
    · intro quality hquality
      obtain rfl := hmoves.brought hquality
      rw [answers_snoc_heartbeat]
      simp
  · have hsame := (keepsQuality_of_step ha hstep).eq
    constructor
    · rw [hsame]
      exact h.stored.imp_right mem_answers_snoc
    · intro quality hquality
      rcases hthread with hthread | ⟨-, hthread⟩
      · rw [hthread] at hquality
        exact mem_answers_snoc (h.pending quality hquality)
      · rw [hthread] at hquality
        cases hquality

/-- **Run lemma.** -/
theorem QualityOrigin.run {title gameId : Bytes} {rating : Rating}
    (hrun : broadcastMachine.Run (World.init title rating gameId) tr es w) :
    QualityOrigin tr w := by
  apply hrun.induction_on_trace (I := fun tr _ w => QualityOrigin tr w)
  · exact ⟨.inl rfl, fun quality h => by cases h⟩
  · intro tr es w a w' out h hstep
    exact h.step hstep

end

/-- The heartbeats of the run were answered with these values, or failed. -/
def AnsweredWith (tr : List (World × Action)) (values : List (Option Json)) : Prop :=
  answers tr = values.map (Option.map ConnectionQuality.fromJson)

/-- A good quality, reported or sent, has been received. -/
structure GoodIsReceived (values : List (Option Json)) (w : World) : Prop where
  reported : w.connectionQuality = .good → some (.string "GOOD") ∈ values
  sent : w.sourceConnectionQuality = some .good → some (.string "GOOD") ∈ values

/-- Nothing but a good quality is sent as one. -/
theorem World.sourceConnectionQuality_good {w : World}
    (h : w.sourceConnectionQuality = some .good) : w.connectionQuality = .good := by
  unfold World.sourceConnectionQuality at h
  split at h
  · assumption
  · cases h
  · cases h

/-- Among values that are recognised, good is read from its name alone. -/
theorem goodIsReceived_of_recognised {tr : List (World × Action)} {w : World}
    {values : List (Option Json)} (h : QualityOrigin tr w) (hvalues : AnsweredWith tr values)
    (hrecognised : ∀ v, some v ∈ values → Recognised v) : GoodIsReceived values w := by
  have hreported : w.connectionQuality = .good → some (.string "GOOD") ∈ values := by
    intro hgood
    rcases h.stored with hunknown | hmem
    · rw [hunknown] at hgood
      cases hgood
    · unfold AnsweredWith at hvalues
      rw [hvalues, hgood] at hmem
      obtain ⟨response, hresponse, hread⟩ := List.mem_map.mp hmem
      obtain ⟨v, rfl, hv⟩ := Option.map_eq_some_iff.mp hread
      rcases hrecognised v hresponse with rfl | rfl | rfl
      · exact hresponse
      · cases hv
      · cases hv
  exact ⟨hreported, fun h => hreported (World.sourceConnectionQuality_good h)⟩

/-- A broadcast that receives the value beside those of the tables reports no good quality to
the application, and sends none with the feed, before it has received one. -/
def NeverTakenForGood (v : Json) : Prop :=
  ∀ (title gameId : Bytes) (rating : Rating) (tr : List (World × Action)) (es : List Event)
    (w : World) (values : List (Option Json)),
    broadcastMachine.Run (World.init title rating gameId) tr es w →
    AnsweredWith tr values →
    (∀ u, some u ∈ values → u = v ∨ Recognised u) →
    GoodIsReceived values w

/-- **The quality of a heartbeat.**  A value is read as it is read for feeds, and is never
taken for a good quality, exactly if it is one of the tables. -/
theorem readAsForFeeds_iff_recognised (v : Json) :
    ReadAsForFeeds v ∧ NeverTakenForGood v ↔ Recognised v := by
  constructor
  · rintro ⟨hread, -⟩
    exact readAsForFeeds_iff.mp hread
  · intro hv
    constructor
    · exact readAsForFeeds_iff.mpr hv
    · intro title gameId rating tr es w values hrun hvalues hamong
      apply goodIsReceived_of_recognised (QualityOrigin.run hrun) hvalues
      intro u hu
      rcases hamong u hu with rfl | hu
      · exact hv
      · exact hu

/-- A quality of another name is read as good. -/
theorem connectionQuality_fair_is_good :
    ConnectionQuality.fromJson (.string "FAIR") = .good ∧
      ¬ ReadAsForFeeds (.string "FAIR") := by
  constructor
  · rfl
  · intro h
    cases h.agrees

end Caff
