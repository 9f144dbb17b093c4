import Mathlib.Data.Rat.Defs

/-!
# JSON documents and their schemas

A document is a JSON value, and a schema says which documents it accepts. The schemas are those
built from five keywords, nested to any depth:

* `type`, one name or a list of names, and `enum`, a list of values;
* `required` and `properties`, which speak of the fields of an object;
* `items`, which speaks of the elements of an array.

What a keyword does not mention it does not restrict: a field that no property names may hold
anything. `onlyDeclared` is the narrower reading in which a document carries declared fields only.
-/

namespace Fdai.JsonSchema

/-! ## Documents -/

/-- A JSON value. An object lists its fields in the order they were written. -/
inductive Json where
  | null
  | bool (value : Bool)
  | number (value : ℚ)
  | string (value : String)
  | array (elements : List Json)
  | object (fields : List (String × Json))

namespace Json

/-- **Induction over a document**: what holds of an array when it holds of its elements, and of an
object when it holds of its fields, holds of every value. -/
theorem nested_induction {motive : Json → Prop}
    (scalar : ∀ value, (∀ elements, value ≠ .array elements) → (∀ fields, value ≠ .object fields) →
      motive value)
    (array : ∀ elements, (∀ value ∈ elements, motive value) → motive (.array elements))
    (object : ∀ fields, (∀ name value, (name, value) ∈ fields → motive value) →
      motive (.object fields)) :
    ∀ value, motive value
  | .null => scalar .null (by simp) (by simp)
  | .bool b => scalar (.bool b) (by simp) (by simp)
  | .number q => scalar (.number q) (by simp) (by simp)
  | .string s => scalar (.string s) (by simp) (by simp)
  | .array elements => array elements fun value _ => nested_induction scalar array object value
  | .object fields => object fields fun _ value _ => nested_induction scalar array object value
termination_by value => sizeOf value
decreasing_by
  · rename_i isElement
    have smaller := List.sizeOf_lt_of_mem isElement
    simp only [Json.array.sizeOf_spec]
    omega
  · rename_i isField
    have smaller := List.sizeOf_lt_of_mem isField
    simp only [Prod.mk.sizeOf_spec] at smaller
    simp only [Json.object.sizeOf_spec]
    omega

mutual

/-- Two values are the same value, whatever the order of their fields. -/
def same : Json → Json → Bool
  | .null, .null => true
  | .bool a, .bool b => a == b
  | .number a, .number b => a == b
  | .string a, .string b => a == b
  | .array as, .array bs => sameElements as bs
  | .object as, .object bs => as.length == bs.length && sameFields as bs
  | _, _ => false

/-- Two lists hold the same values in the same order. -/
def sameElements : List Json → List Json → Bool
  | [], [] => true
  | a :: as, b :: bs => a.same b && sameElements as bs
  | _, _ => false

/-- Every field of the first list is in the second with the same value. -/
def sameFields : List (String × Json) → List (String × Json) → Bool
  | [], _ => true
  | (name, a) :: as, bs =>
    (match bs.lookup name with
      | some b => a.same b
      | none => false) && sameFields as bs

end

end Json

/-- The type names of JSON Schema. -/
inductive JsonType where
  | null | boolean | integer | number | string | array | object
  deriving DecidableEq

/-- The values of a type. A number with no fraction is an integer. -/
def JsonType.admits : JsonType → Json → Bool
  | .null, .null => true
  | .boolean, .bool _ => true
  | .integer, .number value => value.den == 1
  | .number, .number _ => true
  | .string, .string _ => true
  | .array, .array _ => true
  | .object, .object _ => true
  | _, _ => false

/-- The value of a `type` keyword: one name, or a list of names. -/
inductive TypeKeyword where
  | one (name : JsonType)
  | many (names : List JsonType)
  deriving DecidableEq

/-- A schema: its keywords, each of which may be absent. -/
structure Schema where
  type : Option TypeKeyword
  enum : Option (List Json)
  required : List String
  properties : Option (List (String × Schema))
  items : Option Schema

namespace Schema

/-- The schema without keywords. -/
def any : Schema := ⟨none, none, [], none, none⟩

def property (schema : Schema) (name : String) : Option Schema :=
  (schema.properties.getD []).lookup name

end Schema

/-- The value has one of the types of the keyword. -/
def typeAdmits : Option TypeKeyword → Json → Bool
  | none, _ => true
  | some (.one name), value => name.admits value
  | some (.many names), value => names.any (·.admits value)

def enumAdmits : Option (List Json) → Json → Bool
  | none, _ => true
  | some values, value => values.any (·.same value)

namespace Schema

/-- What a schema's own `type` and `enum` say of a value. -/
def admits (schema : Schema) (value : Json) : Bool :=
  typeAdmits schema.type value && enumAdmits schema.enum value

mutual

def admitsInside : Json → Schema → Bool
  | .object fields, schema =>
    schema.required.all (fun name => (fields.lookup name).isSome) && admitsFields fields schema
  | .array elements, schema =>
    match schema.items with
    | some item => admitsElements elements item
    | none => true
  | _, _ => true

/-- Every field is accepted by the schema its name is bound to. -/
def admitsFields : List (String × Json) → Schema → Bool
  | [], _ => true
  | (name, value) :: rest, schema =>
    (match schema.property name with
      | some field => field.admits value && admitsInside value field
      | none => true) && admitsFields rest schema

/-- Every element is accepted. -/
def admitsElements : List Json → Schema → Bool
  | [], _ => true
  | value :: rest, item =>
    item.admits value && admitsInside value item && admitsElements rest item

end

/-- **The schema accepts the value.** -/
def accepts (schema : Schema) (value : Json) : Bool :=
  schema.admits value && schema.admitsInside value

mutual

/-- The value carries only fields that the schema declares. An element of an array for which no
element schema is given declares none. -/
def onlyDeclared : Json → Schema → Bool
  | .object fields, schema => onlyDeclaredFields fields schema
  | .array elements, schema => onlyDeclaredElements elements (schema.items.getD any)
  | _, _ => true

def onlyDeclaredFields : List (String × Json) → Schema → Bool
  | [], _ => true
  | (name, value) :: rest, schema =>
    (match schema.property name with
      | some field => onlyDeclared value field
      | none => false) && onlyDeclaredFields rest schema

/-- Every element carries only declared fields. -/
def onlyDeclaredElements : List Json → Schema → Bool
  | [], _ => true
  | value :: rest, item => onlyDeclared value item && onlyDeclaredElements rest item

end

/-- The schema accepts the value, and declares every field in it. -/
def conforms (schema : Schema) (value : Json) : Bool :=
  schema.accepts value && onlyDeclared value schema

end Schema

/-! ## Fields and elements one by one -/

namespace Schema

variable {schema : Schema} {value : Json}

theorem accepts_iff : schema.accepts value = true ↔
      schema.admits value = true ∧ schema.admitsInside value = true := by
  simp [accepts]

variable {fields : List (String × Json)}

theorem admitsFields_iff : admitsFields fields schema = true ↔
      ∀ name value, (name, value) ∈ fields → ∀ field, schema.property name = some field →
        field.accepts value = true := by
  induction fields with
  | nil => simp [admitsFields]
  | cons head rest ih =>
    obtain ⟨first, content⟩ := head
    simp only [admitsFields, Bool.and_eq_true, ih, List.mem_cons, Prod.mk.injEq]
    constructor
    · rintro ⟨here, later⟩ name value (⟨rfl, rfl⟩ | isLater) field declared
      · rw [declared] at here
        simpa [accepts] using here
      · exact later name value isLater field declared
    · intro every
      refine ⟨?_, fun name value isLater => every name value (.inr isLater)⟩
      cases declared : schema.property first with
      | none => rfl
      | some field => simpa [accepts] using every first content (.inl ⟨rfl, rfl⟩) field declared

variable {elements : List Json} {item : Schema}

theorem admitsElements_iff :
    admitsElements elements item = true ↔ ∀ value ∈ elements, item.accepts value = true := by
  induction elements with
  | nil => simp [admitsElements]
  | cons first rest ih => simp [admitsElements, ih, accepts]

theorem onlyDeclaredFields_iff : onlyDeclaredFields fields schema = true ↔
      ∀ name value, (name, value) ∈ fields →
        ∃ field, schema.property name = some field ∧ onlyDeclared value field = true := by
  induction fields with
  | nil => simp [onlyDeclaredFields]
  | cons head rest ih =>
    obtain ⟨first, content⟩ := head
    simp only [onlyDeclaredFields, Bool.and_eq_true, ih, List.mem_cons, Prod.mk.injEq]
    constructor
    · rintro ⟨here, later⟩ name value (⟨rfl, rfl⟩ | isLater)
      · cases declared : schema.property name with
        | none => simp [declared] at here
        | some field => exact ⟨field, rfl, by simpa [declared] using here⟩
      · exact later name value isLater
    · intro every
      refine ⟨?_, fun name value isLater => every name value (.inr isLater)⟩
      obtain ⟨field, declared, inner⟩ := every first content (.inl ⟨rfl, rfl⟩)
      simp [declared, inner]

theorem onlyDeclaredElements_iff : onlyDeclaredElements elements item = true ↔
      ∀ value ∈ elements, onlyDeclared value item = true := by
  induction elements with
  | nil => simp [onlyDeclaredElements]
  | cons first rest ih => simp [onlyDeclaredElements, ih]

theorem conforms_iff : schema.conforms value = true ↔
      schema.accepts value = true ∧ onlyDeclared value schema = true := by
  simp [conforms]

theorem conforms_field (conforming : schema.conforms (.object fields) = true) {name : String}
    (isField : (name, value) ∈ fields) :
    ∃ field, schema.property name = some field ∧ field.conforms value = true := by
  obtain ⟨accepted, declared⟩ := conforms_iff.1 conforming
  have inside := (accepts_iff.1 accepted).2
  simp only [admitsInside, Bool.and_eq_true, admitsFields_iff] at inside
  simp only [onlyDeclared, onlyDeclaredFields_iff] at declared
  obtain ⟨field, found, inner⟩ := declared name value isField
  exact ⟨field, found, conforms_iff.2 ⟨inside.2 name value isField field found, inner⟩⟩

theorem conforms_element
    (conforming : schema.conforms (.array elements) = true) (hasItems : schema.items = some item)
    (isElement : value ∈ elements) : item.conforms value = true := by
  obtain ⟨accepted, declared⟩ := conforms_iff.1 conforming
  have inside := (accepts_iff.1 accepted).2
  simp only [admitsInside, hasItems, admitsElements_iff] at inside
  simp only [onlyDeclared, hasItems, Option.getD_some, onlyDeclaredElements_iff] at declared
  exact conforms_iff.2 ⟨inside value isElement, declared value isElement⟩

theorem conforms_required (conforming : schema.conforms (.object fields) = true) {name : String}
    (isRequired : name ∈ schema.required) : (fields.lookup name).isSome = true := by
  have inside := (accepts_iff.1 (conforms_iff.1 conforming).1).2
  simp only [admitsInside, Bool.and_eq_true, List.all_eq_true] at inside
  exact inside.1 name isRequired

end Schema

/-- One step into a schema: to the schema of a field, or to the schema of the elements. -/
inductive Step where
  | field (name : String)
  | element

/-- The schema one step into another. -/
def Schema.step (schema : Schema) : Step → Option Schema
  | .field name => schema.property name
  | .element => schema.items

/-- A schema declares the place its steps lead to. -/
def Schema.declares : Schema → List Step → Bool
  | _, [] => true
  | schema, step :: rest =>
    match schema.step step with
    | some next => next.declares rest
    | none => false

end Fdai.JsonSchema
