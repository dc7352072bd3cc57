/-
# JSON documents and their checked accessors

JSON values as a C++ program sees them through `nlohmann::json` 3.6.1, with the
accessors that inspect them.  An accessor either succeeds, throws one of the
library's exceptions, or (the `const` subscript on a missing key, and the conversion
of a double to an integer type without its value) is undefined behaviour.

* `Json` : the values, an object being its list of members;
* `find`, `atKey`, `atIndex`, `index`, `getString`, ... : the accessors;
* `getArray`, `optionalValue`, `optionalMember` : those for vectors and optionals;
* `Access.Defined` : the access is not undefined behaviour;
* `Except.Succeeds` : the access goes through, with one lemma per accessor that
  says which values it goes through on;
* `EnumTable` : the tables an enumeration is read with, which go through on every value.
-/
import Mathlib.Algebra.Ring.Int.Defs
import Mathlib.Algebra.Ring.Nat
import Mathlib.Data.Rat.Defs
import Mathlib.Data.List.Basic
import Mathlib.Data.List.Nodup
import Mathlib.Tactic.Common

/-! ## Values and faults -/

/-- A JSON value.  Numbers are kept in the three forms of the library's lexer. -/
inductive Json : Type
  | null
  | boolean (b : Bool)
  | numberUnsigned (n : ℕ)
  | numberInteger (i : ℤ)
  | numberFloat (q : ℚ)
  | string (s : String)
  | array (elements : List Json)
  | object (members : List (String × Json))

namespace Json

/-- How an access can fail: an exception of the library, with its number, or
undefined behaviour. -/
inductive Fault : Type
  | typeError (id : ℕ)
  | outOfRange (id : ℕ)
  | undefined
  deriving DecidableEq, Repr

/-- The result of an access. -/
abbrev Access (α : Type) := Except Fault α

/-- The access is defined: it goes through, or throws. -/
def Access.Defined {α : Type} (x : Access α) : Prop := x ≠ .error .undefined

/-! ## Accessors -/

/-- `find(key)`: on anything but an object the answer is `end()`. -/
def find (j : Json) (key : String) : Option Json :=
  match j with
  | object members => members.lookup key
  | _ => none

/-- `at(key)`. -/
def atKey (j : Json) (key : String) : Access Json :=
  match j with
  | object members =>
      match members.lookup key with
      | some v => .ok v
      | none => .error (.outOfRange 403)
  | _ => .error (.typeError 304)

/-- `at(idx)`. -/
def atIndex (j : Json) (idx : ℕ) : Access Json :=
  match j with
  | array elements =>
      match elements[idx]? with
      | some v => .ok v
      | none => .error (.outOfRange 401)
  | _ => .error (.typeError 304)

/-- `operator[](key) const`: the library only asserts that the key is there. -/
def index (j : Json) (key : String) : Access Json :=
  match j with
  | object members =>
      match members.lookup key with
      | some v => .ok v
      | none => .error .undefined
  | _ => .error (.typeError 305)

/-- `get<std::string>()`. -/
def getString : Json → Access String
  | string s => .ok s
  | _ => .error (.typeError 302)

/-- `get_ref<std::string const &>()`. -/
def getStringRef : Json → Access String
  | string s => .ok s
  | _ => .error (.typeError 303)

/-- `get<bool>()`. -/
def getBool : Json → Access Bool
  | boolean b => .ok b
  | _ => .error (.typeError 302)

/-- A double truncated towards zero. -/
def truncate (q : ℚ) : ℤ := q.num.tdiv q.den

/-- The conversion of a double to an integer type of the values from `low` up to `high`: it is
undefined where the type has no value for the truncated double. -/
def convertDouble (low high : ℤ) (q : ℚ) : Access ℤ :=
  if low ≤ truncate q ∧ truncate q < high then .ok (truncate q) else .error .undefined

/-- `get<uint64_t>()`: booleans are not numbers here. -/
def getUnsigned : Json → Access ℕ
  | numberUnsigned n => .ok n
  | numberInteger i => .ok (i % 2 ^ 64).toNat
  | numberFloat q => Int.toNat <$> convertDouble 0 (2 ^ 64) q
  | _ => .error (.typeError 302)

/-- `get<int>()`: the conversion of any other arithmetic type, booleans too. -/
def getInt : Json → Access ℤ
  | numberUnsigned n => .ok (Int.bmod n (2 ^ 32))
  | numberInteger i => .ok (Int.bmod i (2 ^ 32))
  | numberFloat q => convertDouble (-2 ^ 31) (2 ^ 31) q
  | boolean b => .ok (if b then 1 else 0)
  | _ => .error (.typeError 302)

/-- `get<double>()`: booleans are not numbers here. -/
def getDouble : Json → Access ℚ
  | numberUnsigned n => .ok n
  | numberInteger i => .ok i
  | numberFloat q => .ok q
  | _ => .error (.typeError 302)

/-- `get<std::vector<T>>()`. -/
def getArray {α : Type} (get : Json → Access α) : Json → Access (List α)
  | array xs => xs.mapM get
  | _ => .error (.typeError 302)

/-- A value for an optional: null resets it. -/
def optionalValue {α : Type} (get : Json → Access α) : Json → Access (Option α)
  | null => .ok none
  | j => some <$> get j

/-- A member for an optional, looked up with `find`: its absence resets it too. -/
def optionalMember {α : Type} (j : Json) (key : String) (get : Json → Access α) :
    Access (Option α) :=
  match j.find key with
  | some v => optionalValue get v
  | none => .ok none

/-- What a range-based `for` over the value visits. -/
def elements : Json → List Json
  | null => []
  | array xs => xs
  | object members => members.map Prod.snd
  | j => [j]

mutual

/-- The strings in a value. -/
def strings : Json → List String
  | string s => [s]
  | array xs => stringsOfElements xs
  | object members => stringsOfMembers members
  | _ => []

def stringsOfElements : List Json → List String
  | [] => []
  | x :: xs => x.strings ++ stringsOfElements xs

def stringsOfMembers : List (String × Json) → List String
  | [] => []
  | (key, value) :: members => key :: value.strings ++ stringsOfMembers members

end

/-! ## Kinds of values -/

/-- The value is a string. -/
def IsString (j : Json) : Prop := ∃ s, j = string s

/-- The value is a boolean. -/
def IsBool (j : Json) : Prop := ∃ b, j = boolean b

/-- The value is a number. -/
def IsNumber : Json → Prop
  | numberUnsigned _ | numberInteger _ | numberFloat _ => True
  | _ => False

/-- The object has the member `key`, and its value satisfies `P`. -/
def Has (j : Json) (key : String) (P : Json → Prop) : Prop := ∃ v, j.find key = some v ∧ P v

/-- The value is a number that can be converted to an integer type of the values from `low` up
to `high`. -/
def IsNumberFor (low high : ℤ) : Json → Prop
  | numberUnsigned _ | numberInteger _ => True
  | numberFloat q => low ≤ truncate q ∧ truncate q < high
  | _ => False

/-- If the object has the member `key`, its value is null or satisfies `P`. -/
def HasOptional (j : Json) (key : String) (P : Json → Prop) : Prop :=
  ∀ v, j.find key = some v → v = null ∨ P v

/-- The value is an array of values that satisfy `P`. -/
def IsArrayOf (P : Json → Prop) (j : Json) : Prop := ∃ xs, j = array xs ∧ ∀ x ∈ xs, P x

/-- The value is an array whose first element is a string. -/
def StartsWithString (j : Json) : Prop := ∃ s rest, j = array (string s :: rest)

end Json

/-! ## Accesses that go through -/

/-- The computation returns a value. -/
def Except.Succeeds {ε α : Type*} (x : Except ε α) : Prop := ∃ v, x = .ok v

namespace Except

universe u v
variable {ε : Type u} {α β : Type v}

@[simp] theorem succeeds_ok (v : α) : (Except.ok v : Except ε α).Succeeds := ⟨v, rfl⟩

@[simp] theorem not_succeeds_error (e : ε) : ¬ (Except.error e : Except ε α).Succeeds := by
  rintro ⟨v, hv⟩
  simp at hv

@[simp] theorem succeeds_pure (v : α) : (pure v : Except ε α).Succeeds := ⟨v, rfl⟩

/-- A sequence goes through if its first part does and the rest does on its value. -/
@[simp] theorem succeeds_bind (x : Except ε α) (f : α → Except ε β) :
    (x >>= f).Succeeds ↔ ∃ v, x = .ok v ∧ (f v).Succeeds := by
  rcases x with e | v
  · simp [bind, Except.bind]
  · simp [bind, Except.bind]

/-- The value of a sequence comes out of both of its parts. -/
theorem exists_of_bind_eq_ok {x : Except ε α} {f : α → Except ε β} {w : β}
    (h : (x >>= f) = .ok w) : ∃ v, x = .ok v ∧ f v = .ok w := by
  rcases x with e | v
  · simp [bind, Except.bind] at h
  · exact ⟨v, rfl, h⟩

/-- The form of `succeeds_bind` for a rest that goes through on every value alike. -/
theorem succeeds_bind_of_forall {x : Except ε α} {f : α → Except ε β} {Q : Prop}
    (hf : ∀ v, (f v).Succeeds ↔ Q) : (x >>= f).Succeeds ↔ x.Succeeds ∧ Q := by
  rcases x with e | v
  · simp [bind, Except.bind]
  · simpa [bind, Except.bind] using hf v

@[simp] theorem succeeds_map (x : Except ε α) (f : α → β) :
    (f <$> x).Succeeds ↔ x.Succeeds := by
  rcases x with e | v
  · simp [Functor.map, Except.map]
  · simp [Functor.map, Except.map]

/-- Going through a list goes through if it does on every element. -/
theorem succeeds_mapM {xs : List α} {f : α → Except ε β} :
    (xs.mapM f).Succeeds ↔ ∀ x ∈ xs, (f x).Succeeds := by
  induction xs with
  | nil => simp
  | cons x xs ih =>
      rw [List.mapM_cons]
      simp only [succeeds_bind, succeeds_pure, and_true, List.forall_mem_cons, ← ih]
      constructor
      · rintro ⟨v, hv, w, hw⟩
        exact ⟨⟨v, hv⟩, w, hw⟩
      · rintro ⟨⟨v, hv⟩, w, hw⟩
        exact ⟨v, hv, w, hw⟩

end Except

namespace Json

/-! ### Defined accesses -/

theorem Access.defined_pure {α : Type} (v : α) : Access.Defined (pure v) := by
  simp [Access.Defined, pure, Except.pure]

theorem Access.Defined.bind {α β : Type} {x : Access α} {f : α → Access β} (hx : x.Defined)
    (hf : ∀ v, (f v).Defined) : Access.Defined (x >>= f) := by
  rcases x with e | v
  · intro h
    exact hx (congrArg Except.error (Except.error.inj h))
  · exact hf v

theorem defined_atKey (j : Json) (key : String) : (j.atKey key).Defined := by
  unfold atKey Access.Defined
  repeat' split
  all_goals simp

theorem defined_atIndex (j : Json) (idx : ℕ) : (j.atIndex idx).Defined := by
  unfold atIndex Access.Defined
  repeat' split
  all_goals simp

theorem defined_getString (j : Json) : j.getString.Defined := by
  cases j <;> simp [getString, Access.Defined]

theorem defined_getBool (j : Json) : j.getBool.Defined := by
  cases j <;> simp [getBool, Access.Defined]

/-! ### Values of accesses -/

@[simp] theorem atKey_eq_ok_iff {j v : Json} {key : String} :
    j.atKey key = .ok v ↔ j.find key = some v := by
  rcases j with _ | _ | _ | _ | _ | _ | _ | members <;> simp only [atKey, find, reduceCtorEq]
  rcases members.lookup key with _ | w <;> simp

@[simp] theorem index_eq_ok_iff {j v : Json} {key : String} :
    j.index key = .ok v ↔ j.find key = some v := by
  rcases j with _ | _ | _ | _ | _ | _ | _ | members <;> simp only [index, find, reduceCtorEq]
  rcases members.lookup key with _ | w <;> simp

@[simp] theorem getString_eq_ok_iff {j : Json} {s : String} :
    j.getString = .ok s ↔ j = string s := by
  cases j <;> simp [getString]

theorem succeeds_getString_iff {j : Json} : j.getString.Succeeds ↔ j.IsString := by
  cases j <;> simp [getString, IsString]

theorem succeeds_getStringRef_iff {j : Json} : j.getStringRef.Succeeds ↔ j.IsString := by
  cases j <;> simp [getStringRef, IsString]

theorem succeeds_getBool_iff {j : Json} : j.getBool.Succeeds ↔ j.IsBool := by
  cases j <;> simp [getBool, IsBool]

theorem succeeds_convertDouble_iff {low high : ℤ} {q : ℚ} :
    (convertDouble low high q).Succeeds ↔ low ≤ truncate q ∧ truncate q < high := by
  unfold convertDouble
  split <;> simp [*]

theorem succeeds_getUnsigned_iff {j : Json} :
    j.getUnsigned.Succeeds ↔ j.IsNumberFor 0 (2 ^ 64) := by
  cases j <;> simp [getUnsigned, IsNumberFor, succeeds_convertDouble_iff]

theorem succeeds_getInt_iff {j : Json} :
    j.getInt.Succeeds ↔ j.IsNumberFor (-2 ^ 31) (2 ^ 31) ∨ j.IsBool := by
  cases j <;> simp [getInt, IsNumberFor, IsBool, succeeds_convertDouble_iff]

theorem succeeds_getDouble_iff {j : Json} : j.getDouble.Succeeds ↔ j.IsNumber := by
  cases j <;> simp [getDouble, IsNumber]

section

variable {α : Type} {j : Json} {key : String} {get : Json → Access α} {P : Json → Prop}

theorem succeeds_getArray_iff (hget : ∀ v, (get v).Succeeds ↔ P v) :
    (getArray get j).Succeeds ↔ j.IsArrayOf P := by
  rcases j with _ | _ | _ | _ | _ | _ | xs | _ <;>
    simp [getArray, IsArrayOf, Except.succeeds_mapM, hget]

theorem optionalValue_of_ne_null (h : j ≠ null) : optionalValue get j = some <$> get j := by
  cases j with
  | null => exact absurd rfl h
  | _ => rfl

theorem succeeds_optionalValue_iff (hget : ∀ v, (get v).Succeeds ↔ P v) :
    (optionalValue get j).Succeeds ↔ j = null ∨ P j := by
  cases j <;> simp [optionalValue, hget]

theorem succeeds_optionalMember_iff (hget : ∀ v, (get v).Succeeds ↔ P v) :
    (optionalMember j key get).Succeeds ↔ j.HasOptional key P := by
  unfold optionalMember HasOptional
  rcases j.find key with _ | v
  · simp
  · simp [succeeds_optionalValue_iff hget]

end

/-- Reading a member goes through if the member is there and reading its value does. -/
theorem succeeds_atKey_bind_iff {α : Type} {j : Json} {key : String} {f : Json → Access α}
    {P : Json → Prop} (hf : ∀ v, (f v).Succeeds ↔ P v) :
    (j.atKey key >>= f).Succeeds ↔ j.Has key P := by
  simp only [Except.succeeds_bind, atKey_eq_ok_iff, hf, Has]

/-- `at(0).get<std::string>()` goes through on the arrays that start with a string. -/
theorem succeeds_atIndex_zero_iff {j : Json} :
    (j.atIndex 0 >>= getString).Succeeds ↔ j.StartsWithString := by
  rcases j with _ | _ | _ | _ | _ | _ | xs | _ <;>
    simp only [Except.succeeds_bind, atIndex, StartsWithString, reduceCtorEq, false_and,
      exists_const, exists_false]
  rcases xs with _ | ⟨x, rest⟩
  · simp
  · simp only [List.getElem?_cons_zero, Except.ok.injEq, exists_eq_left', array.injEq,
      List.cons.injEq, succeeds_getString_iff, IsString]
    constructor
    · rintro ⟨s, rfl⟩
      exact ⟨s, rest, rfl, rfl⟩
    · rintro ⟨s, _, hs, _⟩
      exact ⟨s, hs⟩

end Json

/-! ## Enumerations -/

namespace Json

/-- What stands for an enumerator: a string or null. -/
def ofName : Option String → Json
  | none => null
  | some s => string s

/-- The value equals what stands for an enumerator. -/
def isName (j : Json) (name : Option String) : Bool :=
  match j, name with
  | null, none => true
  | string s, some t => s = t
  | _, _ => false

theorem isName_iff {j : Json} {name : Option String} :
    j.isName name = true ↔ j = ofName name := by
  rcases name with _ | t <;> cases j <;> simp [isName, ofName]

theorem ofName_injective : Function.Injective ofName := by
  intro name name' h
  rcases name with _ | t <;> rcases name' with _ | t' <;> simp_all [ofName]

end Json

/-- The table of `NLOHMANN_JSON_SERIALIZE_ENUM`: the enumerators with what stands for
them, at least one. -/
structure EnumTable (α : Type) where
  first : α × Option String
  rest : List (α × Option String)

namespace EnumTable

variable {α : Type} {table : EnumTable α} {j : Json} {e : α} {name : Option String}

def pairs (table : EnumTable α) : List (α × Option String) := table.first :: table.rest

/-- `from_json`: the first pair that matches, and the first of all if none does. -/
def fromJson (table : EnumTable α) (j : Json) : α :=
  ((table.pairs.find? fun pair => j.isName pair.2).getD table.first).1

/-- `to_json`: the name of the first pair with the enumerator, and that of the first of all
if there is none. -/
def toJson [DecidableEq α] (table : EnumTable α) (e : α) : Json :=
  Json.ofName ((table.pairs.find? fun pair => pair.1 = e).getD table.first).2

/-- No two enumerators have the same name. -/
def Distinct (table : EnumTable α) : Prop := (table.pairs.map Prod.snd).Nodup

/-- A name of the table is read as its enumerator, -/
theorem fromJson_of_mem (hdistinct : table.Distinct) (hmem : (e, name) ∈ table.pairs) :
    table.fromJson (Json.ofName name) = e := by
  unfold fromJson
  rcases hfind : table.pairs.find? (fun pair => (Json.ofName name).isName pair.2) with _ | pair
  · have hnone := List.find?_eq_none.mp hfind (e, name) hmem
    exact absurd (Json.isName_iff.mpr rfl) hnone
  · have hname := List.find?_some hfind
    have hsame : name = pair.2 := Json.ofName_injective (Json.isName_iff.mp hname)
    have hequal : pair = (e, name) :=
      List.inj_on_of_nodup_map hdistinct (List.mem_of_find?_eq_some hfind) hmem hsame.symm
    rw [hfind, Option.getD_some, hequal]

/-- and any other value as the first enumerator. -/
theorem fromJson_of_unmatched (h : ∀ pair ∈ table.pairs, j ≠ Json.ofName pair.2) :
    table.fromJson j = table.first.1 := by
  have hnone : table.pairs.find? (fun pair => j.isName pair.2) = none := by
    apply List.find?_eq_none.mpr
    intro pair hpair hname
    exact h pair hpair (Json.isName_iff.mp hname)
  unfold fromJson
  rw [hnone, Option.getD_none]

end EnumTable
