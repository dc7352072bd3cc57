/-
# GraphQL operations and their execution

Selection sets, the values a GraphQL server resolves fields to, and the JSON document that
the execution of a selection set on a value is.  A reader of JSON documents is related to
the value that was executed, without the document in between.

* `SelectionSet`, `Operation` : the documents a client sends;
* `Value` : what the server holds, an object resolving each of its fields;
* `SelectionSet.execute` : the response to a selection set;
* `Accepts` : the JSON values that a server takes for an input of a type;
* `Reads` : a reader takes a result out of a value through a selection set, with one rule
  for each form of a value.

An inline fragment is on an object type, and no field is selected twice in one set.
-/
import Caffeine.Library.Json

namespace Graphql

open Json

/-! ## Documents -/

/-- A selection set: fields with their own sets, and inline fragments `...on type`. -/
inductive SelectionSet : Type
  | nil
  | field (name : String) (set rest : SelectionSet)
  | on (type : String) (set rest : SelectionSet)
  deriving DecidableEq, Repr

namespace SelectionSet

/-- A field without a set of its own. -/
abbrev leaf (name : String) (rest : SelectionSet) : SelectionSet := field name nil rest

/-- The set of the field `name` where an object of type `type` is selected from. -/
def find (type name : String) : SelectionSet → Option SelectionSet
  | nil => none
  | field n set rest => if name = n then some set else rest.find type name
  | on t set rest =>
      if type = t then (set.find type name).or (rest.find type name) else rest.find type name

/-- The fields of the set, those of its fragments among them. -/
def fields : SelectionSet → List String
  | nil => []
  | field name _ rest => name :: rest.fields
  | on _ set rest => set.fields ++ rest.fields

/-- No field is selected twice, neither here nor deeper. -/
def Plain : SelectionSet → Prop
  | nil => True
  | field name set rest => name ∉ rest.fields ∧ set.Plain ∧ rest.Plain
  | on _ set rest => set.fields.Disjoint rest.fields ∧ set.Plain ∧ rest.Plain

instance decidablePlain : (set : SelectionSet) → Decidable set.Plain
  | nil => .isTrue trivial
  | field name set rest =>
      have := decidablePlain set
      have := decidablePlain rest
      inferInstanceAs (Decidable (name ∉ rest.fields ∧ set.Plain ∧ rest.Plain))
  | on _ set rest =>
      have := decidablePlain set
      have := decidablePlain rest
      inferInstanceAs
        (Decidable ((∀ name ∈ set.fields, name ∉ rest.fields) ∧ set.Plain ∧ rest.Plain))

end SelectionSet

/-! ## Execution -/

/-- What the server holds: an object has a type and resolves every field. -/
inductive Value : Type
  | null
  | leaf (json : Json)
  | list (values : List Value)
  | object (type : String) (resolve : String → Value)

mutual

/-- The response to a value, given the members of the response to an object. -/
def complete (members : String → (String → Value) → List (String × Json)) : Value → Json
  | .null => .null
  | .leaf json => json
  | .list values => .array (completeAll members values)
  | .object type resolve => .object (members type resolve)

def completeAll (members : String → (String → Value) → List (String × Json)) :
    List Value → List Json
  | [] => []
  | value :: values => complete members value :: completeAll members values

end

namespace SelectionSet

/-- The members of the response to an object of type `type`. -/
def members : SelectionSet → String → (String → Value) → List (String × Json)
  | nil, _, _ => []
  | field name set rest, type, resolve =>
      (name, if name = "__typename" then .string type else complete set.members (resolve name)) ::
        rest.members type resolve
  | on t set rest, type, resolve =>
      if type = t then set.members type resolve ++ rest.members type resolve
      else rest.members type resolve

/-- The response to a selection set on a value. -/
def execute (set : SelectionSet) (value : Value) : Json := complete set.members value

variable {set : SelectionSet} {type key : String} {resolve : String → Value}

/-- What the response has under a key: the type of the object, or the response to the set
that the key is selected with. -/
def memberOf (type key : String) (resolve : String → Value) (set : SelectionSet) : Json :=
  if key = "__typename" then .string type else set.execute (resolve key)

theorem lookup_members (set : SelectionSet) (type key : String) (resolve : String → Value) :
    (set.members type resolve).lookup key =
      (set.find type key).map (memberOf type key resolve) := by
  induction set with
  | nil => rfl
  | field name set rest _ ih =>
      rw [members, find, List.lookup_cons]
      by_cases hname : key = name
      · rw [hname, if_pos rfl, beq_self_eq_true]
        rfl
      · rw [if_neg hname, beq_false_of_ne hname, ih]
  | on t set rest ihset ihrest =>
      rw [members, find]
      by_cases htype : type = t
      · rw [if_pos htype, if_pos htype, List.lookup_append, ihset, ihrest]
        cases set.find type key with
        | none => rfl
        | some _ => rfl
      · rw [if_neg htype, if_neg htype, ihrest]

@[simp] theorem execute_leaf (json : Json) : set.execute (.leaf json) = json := rfl

theorem completeAll_eq_map (members : String → (String → Value) → List (String × Json))
    (values : List Value) : completeAll members values = values.map (complete members) := by
  induction values with
  | nil => rfl
  | cons value values ih =>
      show complete members value :: completeAll members values = _
      rw [ih, List.map_cons]

@[simp] theorem execute_list (values : List Value) :
    set.execute (.list values) = .array (values.map set.execute) := by
  show Json.array (completeAll set.members values) = _
  rw [completeAll_eq_map]
  rfl

@[simp] theorem execute_object : set.execute (.object type resolve) =
    .object (set.members type resolve) := rfl

theorem find_execute_object :
    (set.execute (.object type resolve)).find key =
      (set.find type key).map (memberOf type key resolve) := by
  rw [execute_object]
  exact set.lookup_members type key resolve

end SelectionSet

/-! ## Operations -/

inductive OperationType
  | query
  | mutation
  | subscription
  deriving DecidableEq, Repr

/-- A reference to a type, `T`, `[T]` or `T!`. -/
inductive TypeRef
  | named (name : String)
  | list (element : TypeRef)
  | nonNull (type : TypeRef)
  deriving DecidableEq, Repr

/-- An operation on one field of its root type, with its variables and the arguments of the
field, each given by a variable. -/
structure Operation where
  type : OperationType
  name : String
  variableDefinitions : List (String × TypeRef)
  field : String
  arguments : List (String × String)
  set : SelectionSet
  plain : set.Plain

/-- An error of a response. -/
structure RequestError where
  message : String
  others : List (String × Json)

def RequestError.json (error : RequestError) : Json :=
  .object (("message", .string error.message) :: error.others)

/-- How an operation ends: its field is resolved, or there are errors and at most partial
data. -/
inductive Answer (α : Type) : Type
  | resolved (value : α)
  | failed (errors : List RequestError) (data : Option Json)

/-- The response to an operation, with any extensions or none. -/
def Operation.respond {α : Type} (operation : Operation) (valueOf : α → Value)
    (extensions : Option Json) : Answer α → Json
  | .resolved a =>
      .object
        (("data", .object [(operation.field, operation.set.execute (valueOf a))]) ::
          (extensions.map fun extensions => ("extensions", extensions)).toList)
  | .failed errors data =>
      .object
        (("errors", .array (errors.map RequestError.json)) ::
          (extensions.map fun extensions => ("extensions", extensions)).toList ++
          (data.map fun data => ("data", data)).toList)

/-- Every argument is given by a variable of the operation, and every variable is used. -/
def Operation.ArgumentsDefined (operation : Operation) : Prop :=
  (∀ argument ∈ operation.arguments, argument.2 ∈ operation.variableDefinitions.map Prod.fst) ∧
    ∀ definition ∈ operation.variableDefinitions,
      definition.1 ∈ operation.arguments.map Prod.snd

instance (operation : Operation) : Decidable operation.ArgumentsDefined :=
  inferInstanceAs (Decidable (_ ∧ _))

/-! ## Inputs -/

/-- What the name of an input type stands for. -/
inductive InputType
  | scalar (accepts : Json → Prop)
  | enum (names : List String)
  | input (fields : List (String × TypeRef))

/-- A type that null is a value of. -/
def TypeRef.IsNullable : TypeRef → Prop
  | .named _ | .list _ => True
  | .nonNull _ => False

/-- The values a server takes for an input of a type.  A field of an input type can be left
out if it can be null, and none can be added. -/
inductive Accepts (schema : String → Option InputType) : TypeRef → Json → Prop
  | null {type : TypeRef} (hnullable : type.IsNullable) : Accepts schema type .null
  | nonNull {type : TypeRef} {json : Json} (hnull : json ≠ .null) (h : Accepts schema type json) :
      Accepts schema (.nonNull type) json
  | list {type : TypeRef} {elements : List Json} (h : ∀ json ∈ elements, Accepts schema type json) :
      Accepts schema (.list type) (.array elements)
  | scalar {name : String} {accepts : Json → Prop} {json : Json}
      (hschema : schema name = some (.scalar accepts)) (h : accepts json) :
      Accepts schema (.named name) json
  | enum {name value : String} {names : List String}
      (hschema : schema name = some (.enum names)) (h : value ∈ names) :
      Accepts schema (.named name) (.string value)
  | input {name : String} {fields : List (String × TypeRef)} {members : List (String × Json)}
      (hschema : schema name = some (.input fields))
      (hknown : ∀ member ∈ members, member.1 ∈ fields.map Prod.fst)
      (hgiven : ∀ field ∈ fields, ∀ json, members.lookup field.1 = some json →
        Accepts schema field.2 json)
      (hmissing : ∀ field ∈ fields, members.lookup field.1 = none → field.2.IsNullable) :
      Accepts schema (.named name) (.object members)

/-- The members are taken for the fields of an input type, or for the variables of an
operation. -/
structure GivenAs (schema : String → Option InputType) (fields : List (String × TypeRef))
    (members : List (String × Json)) : Prop where
  known : ∀ member ∈ members, member.1 ∈ fields.map Prod.fst
  given : ∀ field ∈ fields, ∀ json, members.lookup field.1 = some json →
    Accepts schema field.2 json
  missing : ∀ field ∈ fields, members.lookup field.1 = none → field.2.IsNullable

section

variable {schema : String → Option InputType} {type : TypeRef} {json : Json} {name : String}

@[simp] theorem accepts_nonNull_iff :
    Accepts schema (.nonNull type) json ↔ json ≠ .null ∧ Accepts schema type json := by
  constructor
  · intro h
    cases h with
    | null hnullable => exact hnullable.elim
    | nonNull hnull h => exact ⟨hnull, h⟩
  · rintro ⟨hnull, h⟩
    exact .nonNull hnull h

@[simp] theorem accepts_list_iff :
    Accepts schema (.list type) json ↔
      json = .null ∨ ∃ elements, json = .array elements ∧
        ∀ json ∈ elements, Accepts schema type json := by
  constructor
  · intro h
    cases h with
    | null _ => exact .inl rfl
    | list h => exact .inr ⟨_, rfl, h⟩
  · rintro (rfl | ⟨elements, rfl, h⟩)
    · exact .null trivial
    · exact .list h

theorem accepts_scalar_iff {accepts : Json → Prop}
    (hschema : schema name = some (.scalar accepts)) :
    Accepts schema (.named name) json ↔ json = .null ∨ accepts json := by
  constructor
  · intro h
    cases h with
    | null _ => exact .inl rfl
    | scalar hschema' h =>
        rw [hschema, Option.some.injEq, InputType.scalar.injEq] at hschema'
        rw [hschema']
        exact .inr h
    | enum hschema' _ => exact absurd (hschema.symm.trans hschema') (by simp)
    | input hschema' _ _ _ => exact absurd (hschema.symm.trans hschema') (by simp)
  · rintro (rfl | h)
    · exact .null trivial
    · exact .scalar hschema h

theorem accepts_enum_iff {names : List String} (hschema : schema name = some (.enum names)) :
    Accepts schema (.named name) json ↔
      json = .null ∨ ∃ value ∈ names, json = .string value := by
  constructor
  · intro h
    cases h with
    | null _ => exact .inl rfl
    | scalar hschema' _ => exact absurd (hschema.symm.trans hschema') (by simp)
    | enum hschema' h =>
        rw [hschema, Option.some.injEq, InputType.enum.injEq] at hschema'
        rw [hschema']
        exact .inr ⟨_, h, rfl⟩
    | input hschema' _ _ _ => exact absurd (hschema.symm.trans hschema') (by simp)
  · rintro (rfl | ⟨value, h, rfl⟩)
    · exact .null trivial
    · exact .enum hschema h

theorem accepts_input_iff {fields : List (String × TypeRef)}
    (hschema : schema name = some (.input fields)) :
    Accepts schema (.named name) json ↔
      json = .null ∨ ∃ members, json = .object members ∧ GivenAs schema fields members := by
  constructor
  · intro h
    cases h with
    | null _ => exact .inl rfl
    | scalar hschema' _ => exact absurd (hschema.symm.trans hschema') (by simp)
    | enum hschema' _ => exact absurd (hschema.symm.trans hschema') (by simp)
    | input hschema' hknown hgiven hmissing =>
        rw [hschema, Option.some.injEq, InputType.input.injEq] at hschema'
        rw [hschema']
        exact .inr ⟨_, rfl, hknown, hgiven, hmissing⟩
  · rintro (rfl | ⟨members, rfl, h⟩)
    · exact .null trivial
    · exact .input hschema h.known h.given h.missing

/-- Members with the names of the fields, in their order, are looked up in their order. -/
theorem forall_lookup_iff {fields : List (String × TypeRef)} {P : TypeRef → Json → Prop} :
    ∀ {members : List (String × Json)}, members.map Prod.fst = fields.map Prod.fst →
      (fields.map Prod.fst).Nodup →
      ((∀ field ∈ fields, ∀ json, members.lookup field.1 = some json → P field.2 json) ↔
        List.Forall₂ (fun field member => P field.2 member.2) fields members) := by
  induction fields with
  | nil =>
      intro members hnames _
      rw [List.map_eq_nil_iff.mp hnames]
      simp
  | cons field fields ih =>
      intro members hnames hnodup
      cases members with
      | nil => cases hnames
      | cons member members =>
          rw [List.map_cons, List.map_cons, List.cons.injEq] at hnames
          rw [List.map_cons, List.nodup_cons] at hnodup
          rw [List.forall_mem_cons, List.forall₂_cons, ← ih hnames.2 hnodup.2]
          have hhead : (member :: members).lookup field.1 = some member.2 := by
            rw [← hnames.1]
            exact List.lookup_cons_self
          have htail : ∀ f ∈ fields, (member :: members).lookup f.1 = members.lookup f.1 := by
            intro f hf
            have hne : f.1 ≠ member.1 := by
              intro h
              rw [← hnames.1, ← h] at hnodup
              exact hnodup.1 (List.mem_map_of_mem hf)
            rw [List.lookup_cons, beq_false_of_ne hne]
          refine and_congr ?_ (forall₂_congr fun f hf => by rw [htail f hf])
          rw [hhead]
          simp

/-- **All the fields of a type, in their order.** -/
theorem givenAs_iff_of_names {fields : List (String × TypeRef)} {members : List (String × Json)}
    (hnames : members.map Prod.fst = fields.map Prod.fst) (hnodup : (fields.map Prod.fst).Nodup) :
    GivenAs schema fields members ↔
      List.Forall₂ (fun field member => Accepts schema field.2 member.2) fields members := by
  rw [← forall_lookup_iff hnames hnodup]
  refine ⟨fun h => h.given, fun h => ⟨fun member hm => ?_, h, fun field hf hnone => ?_⟩⟩
  · rw [← hnames]
    exact List.mem_map_of_mem hm
  · have hmem : field.1 ∈ members.map Prod.fst := by
      rw [hnames]
      exact List.mem_map_of_mem hf
    obtain ⟨member, hm, hname⟩ := List.mem_map.mp hmem
    exact absurd hname.symm (bne_iff_ne.mp (List.lookup_eq_none_iff.mp hnone member hm))

theorem accepts_object_iff {fields : List (String × TypeRef)} {members : List (String × Json)}
    (hschema : schema name = some (.input fields)) :
    Accepts schema (.named name) (.object members) ↔ GivenAs schema fields members := by
  rw [accepts_input_iff hschema]
  constructor
  · rintro (h | ⟨members', h, hgiven⟩)
    · cases h
    · rw [Json.object.inj h]
      exact hgiven
  · intro h
    exact .inr ⟨members, rfl, h⟩

end

/-! ## Reading -/

/-- A sequence returns if its first part does and the rest does on its value. -/
theorem bind_eq_ok {ε α β : Type} {x : Except ε α} {f : α → Except ε β} {a : α} {b : β}
    (hx : x = .ok a) (hf : f a = .ok b) : (x >>= f) = .ok b := by
  rw [hx]
  exact hf

/-- The reader takes `result` out of the response to `set` on `value`. -/
def Reads {α : Type} (get : Json → Access α) (set : SelectionSet) (value : Value) (result : α) :
    Prop :=
  get (set.execute value) = .ok result

namespace Reads

variable {α : Type} {get : Json → Access α} {set sub : SelectionSet} {value : Value}
variable {result : α} {type key : String} {resolve : String → Value}

theorem leaf {json : Json} (h : get json = .ok result) : Reads get set (.leaf json) result := h

theorem null : Reads (optionalValue get) set .null none := rfl

/-- A value whose response is not null, for an optional. -/
theorem some (h : Reads get set value result) (hnull : set.execute value ≠ .null) :
    Reads (optionalValue get) set value (Option.some result) := by
  show optionalValue get (set.execute value) = _
  rw [optionalValue_of_ne_null hnull, h]
  rfl

/-- A list is read element by element. -/
theorem list {β : Type} {valueOf : β → Value} {resultOf : β → α}
    (h : ∀ item, Reads get set (valueOf item) (resultOf item)) (items : List β) :
    Reads (getArray get) set (.list (items.map valueOf)) (items.map resultOf) := by
  show getArray get (set.execute (.list (items.map valueOf))) = _
  rw [SelectionSet.execute_list]
  show ((items.map valueOf).map set.execute).mapM get = _
  induction items with
  | nil => rfl
  | cons item items ih =>
      rw [List.map_cons, List.map_cons, List.mapM_cons, h item, ih]
      rfl

/-- A member of an object is read through the set that it is selected with. -/
theorem member (hname : key ≠ "__typename") (hfind : set.find type key = Option.some sub)
    (h : Reads get sub (resolve key) result) :
    ((set.execute (.object type resolve)).atKey key >>= get) = .ok result := by
  have hkey : (set.execute (.object type resolve)).find key =
      Option.some (sub.execute (resolve key)) := by
    rw [SelectionSet.find_execute_object, hfind, Option.map_some, SelectionSet.memberOf,
      if_neg hname]
  rw [atKey_eq_ok_iff.mpr hkey]
  exact h

/-- The same for the member of an optional. -/
theorem optionalMember (hname : key ≠ "__typename")
    (hfind : set.find type key = Option.some sub) {result : Option α}
    (h : Reads (optionalValue get) sub (resolve key) result) :
    Json.optionalMember (set.execute (.object type resolve)) key get = .ok result := by
  have hkey : (set.execute (.object type resolve)).find key =
      Option.some (sub.execute (resolve key)) := by
    rw [SelectionSet.find_execute_object, hfind, Option.map_some, SelectionSet.memberOf,
      if_neg hname]
  unfold Json.optionalMember
  rw [hkey]
  exact h

/-- The type of an object, where it is selected. -/
theorem typename (hfind : set.find type "__typename" = Option.some sub) :
    ((set.execute (.object type resolve)).atKey "__typename" >>= getString) = .ok type := by
  have hkey : (set.execute (.object type resolve)).find "__typename" =
      Option.some (.string type) := by
    rw [SelectionSet.find_execute_object, hfind]
    rfl
  rw [atKey_eq_ok_iff.mpr hkey]
  rfl

end Reads

end Graphql
