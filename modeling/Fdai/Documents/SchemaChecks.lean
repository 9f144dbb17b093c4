import Fdai.Documents.CanonicalJson
import Fdai.Documents.JsonSchema

/-!
# Schemas as checks

A JSON Schema of the 2020-12 draft, keyword by keyword: a keyword is a check of a value, and says
nothing of values of a type that it is not about. A schema is the list of its keywords, `allOf`.

* `ofType`, `enum`, `pattern`, `required`, `properties`, `items`, … — the keywords.
* `accepts_closedObject` — what such an object has, field by field.
-/

namespace Fdai.Documents

open Fdai.JsonSchema (JsonType)

/-- A check of a value. -/
abbrev Check := Json → Bool

namespace Check

/-! ## Keywords -/

/-- `"type"`. A boolean is no integer, and a float without a fraction is one. -/
def ofType : JsonType → Check
  | .null, .null => true
  | .boolean, .bool _ => true
  | .integer, .int _ => true
  | .integer, .float (.finite value) => value.den == 1
  | .number, .int _ => true
  | .number, .float _ => true
  | .string, .text _ => true
  | .array, .list _ => true
  | .object, .object _ => true
  | _, _ => false

/-- `"allOf"`, and a schema with these keywords. -/
def allOf (checks : List Check) : Check := fun value => checks.all fun check => check value

/-- `"anyOf"`. -/
def anyOf (checks : List Check) : Check := fun value => checks.any fun check => check value

/-- `"oneOf"`. -/
def oneOf (checks : List Check) : Check := fun value =>
  (checks.filter fun check => check value).length = 1

/-- `"not"`. -/
def refuses (check : Check) : Check := fun value => !check value

/-- `"if"` and `"then"`. -/
def ifThen (condition consequence : Check) : Check := fun value =>
  !condition value || consequence value

/-- `"enum"`, of texts. -/
def enum (values : List String) : Check
  | .text value => value ∈ values
  | _ => false

/-- `"const"`, of a text. -/
def constText (expected : String) : Check := enum [expected]

/-- `"const"`, of an integer. -/
def constInt (expected : ℤ) : Check
  | .int value => value = expected
  | .float value => value = .finite expected
  | _ => false

/-- `"pattern"`. -/
def pattern (found : String → Bool) : Check
  | .text value => found value
  | _ => true

/-- `"minLength"`. -/
def minLength (length : ℕ) : Check
  | .text value => length ≤ value.length
  | _ => true

/-- `"minimum"`. -/
def minimum (least : ℤ) : Check
  | .int value => least ≤ value
  | .float value => Fdai.Core.PyFloat.le (.finite least) value
  | _ => true

/-- `"minItems"`. -/
def minItems (count : ℕ) : Check
  | .list items => count ≤ items.length
  | _ => true

/-- `"uniqueItems"`: objects are the same whatever the order of their fields. -/
def uniqueItems : Check
  | .list items => (Json.canonicalItems items).Nodup
  | _ => true

/-- `"items"`. -/
def items (check : Check) : Check
  | .list items => items.all check
  | _ => true

/-- `"required"`. -/
def required (names : List String) : Check
  | .object fields => names.all fun name => (fields.lookup name).isSome
  | _ => true

/-- `"properties"`. -/
def properties (declared : List (String × Check)) : Check
  | .object fields => declared.all fun entry => (fields.lookup entry.1).all entry.2
  | _ => true

/-- `"additionalProperties": false`, beside these properties. -/
def noAdditional (declared : List (String × Check)) : Check
  | .object fields => fields.all fun field => field.1 ∈ declared.map Prod.fst
  | _ => true

/-- An object with declared fields only. -/
def closedObject (names : List String) (declared : List (String × Check)) : Check :=
  allOf [ofType .object, noAdditional declared, required names, properties declared]

def nonEmptyText : Check := allOf [ofType .string, minLength 1]

section

variable {value : Json} {check : Check} {checks : List Check} {name text : String}
  {names values : List String} {declared : List (String × Check)} {fields : List (String × Json)}

@[simp] theorem allOf_nil : allOf [] value = true := rfl

@[simp] theorem allOf_cons :
    allOf (check :: checks) value = true ↔ check value = true ∧ allOf checks value = true := by
  show (check value && allOf checks value) = true ↔ _
  rw [Bool.and_eq_true]

theorem ofType_object : ofType .object value = true ↔ ∃ fields, value = .object fields := by
  cases value <;> simp [ofType]

theorem enum_iff : enum values value = true ↔ ∃ text ∈ values, value = .text text := by
  cases value <;> simp [enum]

theorem required_one : required [name] (.object fields) = (fields.lookup name).isSome :=
  Bool.and_true _

/-- **An object with declared fields only**, field by field. -/
theorem accepts_closedObject : closedObject names declared value = true ↔
    ∃ fields, value = .object fields ∧ (∀ field ∈ fields, field.1 ∈ declared.map Prod.fst) ∧
      (∀ name ∈ names, ∃ content, fields.lookup name = some content) ∧
      ∀ entry ∈ declared, ∀ content ∈ fields.lookup entry.1, entry.2 content = true := by
  unfold closedObject
  rw [allOf_cons, allOf_cons, allOf_cons, allOf_cons, ofType_object]
  constructor
  · rintro ⟨⟨fields, rfl⟩, only, needed, checked, -⟩
    refine ⟨fields, rfl, ?_, ?_, ?_⟩
    · simpa [noAdditional] using only
    · intro name isName
      have found := List.all_eq_true.1 needed name isName
      exact Option.isSome_iff_exists.1 found
    · intro entry isEntry content isContent
      have passes := List.all_eq_true.1 checked entry isEntry
      rw [Option.mem_def] at isContent
      rw [isContent] at passes
      exact passes
  · rintro ⟨fields, rfl, only, needed, checked⟩
    refine ⟨⟨fields, rfl⟩, ?_, ?_, ?_, rfl⟩
    · simpa [noAdditional] using only
    · refine List.all_eq_true.2 fun name isName => ?_
      exact Option.isSome_iff_exists.2 (needed name isName)
    · refine List.all_eq_true.2 fun entry isEntry => ?_
      cases found : fields.lookup entry.1 with
      | none => rfl
      | some content => exact checked entry isEntry content found

theorem checked_of_lookup {content : Json} (found : fields.lookup name = some content)
    (passes : check content = true) : ∀ content ∈ fields.lookup name, check content = true := by
  intro content' found'
  obtain rfl := Option.some.inj (found.symm.trans found')
  exact passes

theorem closedObject_of_names (known : ∀ field ∈ fields, field.1 ∈ declared.map Prod.fst)
    (needed : ∀ name ∈ names, name ∈ fields.map Prod.fst)
    (checked : ∀ entry ∈ declared, ∀ content ∈ fields.lookup entry.1, entry.2 content = true) :
    closedObject names declared (.object fields) = true := by
  refine accepts_closedObject.2 ⟨fields, rfl, known, ?_, checked⟩
  intro name isName
  rw [← Option.isSome_iff_exists, List.lookup_isSome_iff]
  obtain ⟨field, isField, rfl⟩ := List.mem_map.1 (needed name isName)
  exact ⟨field, isField, beq_self_eq_true _⟩

theorem accepts_field (accepted : closedObject names declared (.object fields) = true)
    (isDeclared : declared.lookup name = some check) :
    ∀ content ∈ fields.lookup name, check content = true := by
  obtain ⟨fields', same, -, -, checked⟩ := accepts_closedObject.1 accepted
  obtain rfl := Json.object.inj same
  obtain ⟨before, after, rfl, -⟩ := List.lookup_eq_some_iff.1 isDeclared
  exact checked (name, check) (List.mem_append_right _ List.mem_cons_self)

end

/-! ## The order of fields -/

theorem all_congr {α : Type} {items : List α} {p q : α → Bool}
    (same : ∀ item ∈ items, p item = q item) : items.all p = items.all q := by
  rw [Bool.eq_iff_iff, List.all_eq_true, List.all_eq_true]
  exact forall₂_congr fun item isItem => by rw [same item isItem]

/-- A check that does not see the order of fields. -/
def Orderless (check : Check) : Prop := ∀ value, check value.canonical = check value

section

variable {check condition consequence : Check} {checks : List Check}
  {declared : List (String × Check)}

@[simp] theorem orderless_ofType (type : JsonType) : Orderless (ofType type) := by
  intro value
  cases type <;> cases value <;> rfl

@[simp] theorem orderless_enum (values : List String) : Orderless (enum values) := by
  intro value
  cases value <;> rfl

@[simp] theorem orderless_constText (expected : String) : Orderless (constText expected) :=
  orderless_enum _

@[simp] theorem orderless_constInt (expected : ℤ) : Orderless (constInt expected) := by
  intro value
  cases value <;> rfl

@[simp] theorem orderless_pattern (found : String → Bool) : Orderless (pattern found) := by
  intro value
  cases value <;> rfl

@[simp] theorem orderless_minLength (length : ℕ) : Orderless (minLength length) := by
  intro value
  cases value <;> rfl

@[simp] theorem orderless_minimum (least : ℤ) : Orderless (minimum least) := by
  intro value
  cases value <;> rfl

@[simp] theorem orderless_minItems (count : ℕ) : Orderless (minItems count) := by
  intro value
  cases value with
  | list items =>
    show decide (count ≤ (Json.canonicalItems items).length) = decide (count ≤ items.length)
    rw [Json.canonicalItems_eq_map, List.length_map]
  | null | bool | int | float | text | object => rfl

@[simp] theorem orderless_uniqueItems : Orderless uniqueItems := by
  intro value
  cases value with
  | list items =>
    show decide (Json.canonicalItems (Json.canonicalItems items)).Nodup =
      decide (Json.canonicalItems items).Nodup
    rw [Json.canonicalItems_canonicalItems]
  | null | bool | int | float | text | object => rfl

@[simp] theorem orderless_items (orderless : Orderless check) : Orderless (Check.items check) := by
  intro value
  cases value with
  | list items =>
    show (Json.canonicalItems items).all check = items.all check
    rw [Json.canonicalItems_eq_map, List.all_map]
    exact congrArg items.all (funext orderless)
  | null | bool | int | float | text | object => rfl

@[simp] theorem orderless_required (names : List String) : Orderless (required names) := by
  intro value
  cases value with
  | object fields =>
    show (names.all fun name => ((Json.canonicalFields fields).lookup name).isSome) =
      names.all fun name => (fields.lookup name).isSome
    congr 1
    funext name
    rw [Json.lookup_canonicalFields, Option.isSome_map]
  | null | bool | int | float | text | list => rfl

@[simp] theorem orderless_properties (orderless : ∀ entry ∈ declared, Orderless entry.2) :
    Orderless (properties declared) := by
  intro value
  cases value with
  | object fields =>
    show (declared.all fun entry => ((Json.canonicalFields fields).lookup entry.1).all entry.2) =
      declared.all fun entry => (fields.lookup entry.1).all entry.2
    refine all_congr fun entry isEntry => ?_
    rw [Json.lookup_canonicalFields]
    cases fields.lookup entry.1 with
    | none => rfl
    | some content => exact orderless entry isEntry content
  | null | bool | int | float | text | list => rfl

@[simp] theorem orderless_noAdditional (declared : List (String × Check)) :
    Orderless (noAdditional declared) := by
  intro value
  cases value with
  | object fields =>
    show (Json.canonicalFields fields).all (fun field => field.1 ∈ declared.map Prod.fst) =
      fields.all fun field => field.1 ∈ declared.map Prod.fst
    have names (fields : List (String × Json)) :
        fields.all (fun field => field.1 ∈ declared.map Prod.fst) = true ↔
          ∀ name ∈ fields.map Prod.fst, name ∈ declared.map Prod.fst := by
      simp only [List.all_eq_true, decide_eq_true_eq, List.forall_mem_map]
    rw [Bool.eq_iff_iff, names, names]
    simp only [Json.mem_names_canonicalFields]
  | null | bool | int | float | text | list => rfl

@[simp] theorem orderless_allOf (orderless : ∀ check ∈ checks, Orderless check) :
    Orderless (allOf checks) :=
  fun value => all_congr fun check isCheck => orderless check isCheck value

@[simp] theorem orderless_anyOf (orderless : ∀ check ∈ checks, Orderless check) :
    Orderless (anyOf checks) := by
  intro value
  show (checks.any fun check => check value.canonical) = checks.any fun check => check value
  rw [Bool.eq_iff_iff, List.any_eq_true, List.any_eq_true]
  exact exists_congr fun check => and_congr_right fun isCheck => by rw [orderless check isCheck]

@[simp] theorem orderless_oneOf (orderless : ∀ check ∈ checks, Orderless check) :
    Orderless (oneOf checks) := by
  intro value
  have same : (checks.filter fun check => check value.canonical) =
      checks.filter fun check => check value :=
    List.filter_congr fun check isCheck => orderless check isCheck value
  unfold oneOf
  rw [same]

@[simp] theorem orderless_refuses (orderless : Orderless check) : Orderless (refuses check) :=
  fun value => congrArg not (orderless value)

@[simp] theorem orderless_ifThen (isCondition : Orderless condition)
    (isConsequence : Orderless consequence) : Orderless (ifThen condition consequence) := by
  intro value
  unfold ifThen
  rw [isCondition, isConsequence]

@[simp] theorem orderless_closedObject (names : List String)
    (orderless : ∀ entry ∈ declared, Orderless entry.2) : Orderless (closedObject names declared) := by
  simp [closedObject, orderless_properties orderless]

@[simp] theorem orderless_nonEmptyText : Orderless nonEmptyText := by
  simp [nonEmptyText]

end

end Check

end Fdai.Documents
