import Mathlib.Data.List.Dedup
import Fdai.Documents.JsonSchema

/-!
# The compatibility check of two schema versions

`check_schema_compatibility` compares an old schema with a new one and reports the changes it
sees, each breaking or not. The report is compatible when none is breaking.

`_diff` walks the fields that both schemas declare. It enters a pair of object schemas, and the
element schemas of a pair of arrays; of any other pair it compares the `type` and `enum` only.

The order in which the names of a set are visited is not fixed by the source; here it is the order
of the declarations.
-/

namespace Fdai.Core.Compatibility

open Fdai.JsonSchema

/-- What the check takes from Python: `str` of a value, and a text in quotes. -/
structure Texts where
  str : Json → String
  quote : String → String

/-- The `repr` of a list of texts. -/
def Texts.repr (texts : Texts) (values : List String) : String :=
  "[" ++ ", ".intercalate (values.map texts.quote) ++ "]"

inductive CompatibilityLevel where
  | compatible | breaking
  deriving DecidableEq

/-- `SchemaChange.kind`. -/
inductive ChangeKind where
  | fieldRemoved | requiredAdded | typeChanged | enumAdded | enumNarrowed

structure SchemaChange where
  path : String
  kind : ChangeKind
  breaking : Bool
  detail : String

structure CompatibilityReport where
  level : CompatibilityLevel
  changes : List SchemaChange

def CompatibilityReport.isCompatible (report : CompatibilityReport) : Bool :=
  report.level = .compatible

/-- The name of a type as a schema spells it. -/
def typeName : JsonType → String
  | .null => "null"
  | .boolean => "boolean"
  | .integer => "integer"
  | .number => "number"
  | .string => "string"
  | .array => "array"
  | .object => "object"

def typeSet : TypeKeyword → List JsonType
  | .one name => [name]
  | .many names => names

/-- The `repr` of a `type` keyword. -/
def typeRepr (texts : Texts) : TypeKeyword → String
  | .one name => texts.quote (typeName name)
  | .many names => texts.repr (names.map typeName)

def isObject (schema : Schema) : Bool :=
  schema.type = some (.one .object) || schema.properties.isSome

/-- The pair has the one type `array` on both sides. -/
def bothArrays (o n : Schema) : Bool :=
  o.type = some (.one .array) && n.type = some (.one .array)

/-- The `type_changed` entry of a field: the new types do not cover the old ones. -/
def typeChange (texts : Texts) (path : String) : Option TypeKeyword → Option TypeKeyword →
    List SchemaChange
  | _, none => []
  | none, some _ => [⟨path, .typeChanged, true, "type constraint added"⟩]
  | some ot, some nt =>
    if typeSet ot ⊆ typeSet nt then [] else
      [⟨path, .typeChanged, true, "type " ++ typeRepr texts ot ++ " -> " ++ typeRepr texts nt⟩]

/-- The old values that no new value is written like, by their texts. -/
def removedValues (texts : Texts) (oe ne : List Json) : List String :=
  (oe.map texts.str).dedup.filter (· ∉ ne.map texts.str)

/-- The `enum_added` or `enum_narrowed` entry of a field. -/
def enumChange (texts : Texts) (path : String) : Option (List Json) → Option (List Json) →
    List SchemaChange
  | _, none => []
  | none, some ne => [⟨path, .enumAdded, true,
      "enum constraint added: " ++ texts.repr ((ne.map texts.str).mergeSort (· ≤ ·))⟩]
  | some oe, some ne =>
    let removed := removedValues texts oe ne
    if removed.isEmpty then [] else
      [⟨path, .enumNarrowed, true,
        "enum values removed: " ++ texts.repr (removed.mergeSort (· ≤ ·))⟩]

/-- The `field_removed` entries: the names only the old schema declares. -/
def removedFields (old new : Schema) (pre : String) : List SchemaChange :=
  (((old.properties.getD []).map Prod.fst).dedup.filter fun name => (new.property name).isNone).map
    fun name => ⟨pre ++ name, .fieldRemoved, true, "field removed"⟩

/-- The `required_added` entries: the names newly required among those the new schema declares. -/
def requiredFields (old new : Schema) (pre : String) : List SchemaChange :=
  (new.required.dedup.filter fun name => name ∉ old.required && (new.property name).isSome).map
    fun name => ⟨pre ++ name, .requiredAdded, true, "field is newly required"⟩

mutual

def diff (texts : Texts) : Schema → Schema → String → List SchemaChange
  | ⟨type, enum, required, properties, items⟩, new, pre =>
    removedFields ⟨type, enum, required, properties, items⟩ new pre ++
      (requiredFields ⟨type, enum, required, properties, items⟩ new pre ++
        diffShared texts properties new pre)

/-- The last loop of `_diff`, when the old schema has properties. -/
def diffShared (texts : Texts) : Option (List (String × Schema)) → Schema → String →
    List SchemaChange
  | none, _, _ => []
  | some properties, new, pre => diffProperties texts properties new pre

/-- The last loop of `_diff`: the fields both schemas declare. -/
def diffProperties (texts : Texts) : List (String × Schema) → Schema → String → List SchemaChange
  | [], _, _ => []
  | (name, o) :: rest, new, pre =>
    (match new.property name with
      | none => []
      | some n =>
        typeChange texts (pre ++ name) o.type n.type ++
          (enumChange texts (pre ++ name) o.enum n.enum ++
            (if isObject o && isObject n then diff texts o n (pre ++ name ++ ".")
              else if bothArrays o n then diffItems texts o n (pre ++ name ++ "[].")
              else []))) ++ diffProperties texts rest new pre

/-- The element schemas of a pair of arrays. -/
def diffItems (texts : Texts) : Schema → Schema → String → List SchemaChange
  | ⟨_, _, _, _, items⟩, n, pre =>
    match n.items with
    | none => []
    | some ni => diffElements texts items ni pre

/-- The element schemas, when the old array has one. -/
def diffElements (texts : Texts) : Option Schema → Schema → String → List SchemaChange
  | none, _, _ => []
  | some oi, ni, pre => diff texts oi ni pre

end

def checkSchemaCompatibility (texts : Texts) (old new : Schema) : CompatibilityReport :=
  let changes := diff texts old new ""
  ⟨if changes.any (·.breaking) then .breaking else .compatible, changes⟩

/-! ## What a clean walk has seen -/

/-- No entry is breaking. -/
def Clean (changes : List SchemaChange) : Prop := ∀ change ∈ changes, change.breaking = false

@[simp] theorem clean_append {changes later : List SchemaChange} :
    Clean (changes ++ later) ↔ Clean changes ∧ Clean later := by
  simp only [Clean, List.mem_append, or_imp, forall_and]

theorem isCompatible_iff {texts : Texts} {old new : Schema} :
    (checkSchemaCompatibility texts old new).isCompatible = true ↔
      Clean (diff texts old new "") := by
  simp [checkSchemaCompatibility, CompatibilityReport.isCompatible, Clean]

theorem diff_eq (texts : Texts) (old new : Schema) (pre : String) :
    diff texts old new pre = removedFields old new pre ++
      (requiredFields old new pre ++ diffShared texts old.properties new pre) := by
  cases old
  simp only [diff]

/-- The types of a field are covered. -/
theorem typeAdmits_of_clean {texts : Texts} {path : String} {ot nt : Option TypeKeyword}
    (clean : Clean (typeChange texts path ot nt)) {value : Json}
    (admitted : typeAdmits ot value = true) : typeAdmits nt value = true := by
  have admits_iff : ∀ keyword : TypeKeyword, typeAdmits (some keyword) value = true ↔
      ∃ name ∈ typeSet keyword, name.admits value = true := by
    intro keyword
    cases keyword with
    | one name | many names => simp [typeAdmits, typeSet]
  rcases nt with _ | nt
  · rfl
  rcases ot with _ | ot
  · simp [typeChange, Clean] at clean
  have covered : typeSet ot ⊆ typeSet nt := by
    by_contra narrowed
    simp [typeChange, Clean, narrowed] at clean
  obtain ⟨name, isName, admits⟩ := (admits_iff ot).1 admitted
  exact (admits_iff nt).2 ⟨name, covered isName, admits⟩

/-- A removed constraint is not a change, and an added one is breaking. -/
theorem enum_of_clean {texts : Texts} {path : String} {oe ne : Option (List Json)}
    (clean : Clean (enumChange texts path oe ne)) :
    ne = none ∨ ∃ old new, oe = some old ∧ ne = some new ∧
      ∀ value ∈ old, texts.str value ∈ new.map texts.str := by
  rcases ne with _ | new
  · exact .inl rfl
  refine .inr ?_
  rcases oe with _ | old
  · simp [enumChange, Clean] at clean
  refine ⟨old, new, rfl, rfl, fun value isOld => ?_⟩
  by_contra lost
  have removed : texts.str value ∈ removedValues texts old new := by
    simp only [removedValues, List.mem_filter, List.mem_dedup, decide_eq_true_eq]
    exact ⟨List.mem_map_of_mem isOld, lost⟩
  have nonempty : (removedValues texts old new).isEmpty = false :=
    List.isEmpty_eq_false_iff.2 (List.ne_nil_of_mem removed)
  simp [enumChange, nonempty, Clean] at clean

/-- What a clean walk has seen of a pair of field schemas. -/
structure FieldSeen (texts : Texts) (o n : Schema) (path : String) : Prop where
  types : Clean (typeChange texts path o.type n.type)
  enums : Clean (enumChange texts path o.enum n.enum)
  inside : (isObject o && isObject n) = true → Clean (diff texts o n (path ++ "."))
  elements : (isObject o && isObject n) = false → bothArrays o n = true →
    Clean (diffItems texts o n (path ++ "[]."))

/-- **What a clean walk has seen** of a pair of schemas. -/
structure Seen (texts : Texts) (old new : Schema) (pre : String) : Prop where
  fields : ∀ name o, old.property name = some o →
    ∃ n, new.property name = some n ∧ FieldSeen texts o n (pre ++ name)
  required : ∀ name ∈ new.required, name ∈ old.required ∨ new.property name = none

theorem lookup_mem {β : Type} {name : String} {value : β} {entries : List (String × β)}
    (found : entries.lookup name = some value) : (name, value) ∈ entries := by
  obtain ⟨before, after, rfl, -⟩ := List.lookup_eq_some_iff.1 found
  simp

/-- Each shared field has been compared. -/
theorem fieldSeen_of_mem {texts : Texts} {new n o : Schema} {name pre : String}
    (declared : new.property name = some n) {properties : List (String × Schema)}
    (clean : Clean (diffProperties texts properties new pre)) (isField : (name, o) ∈ properties) :
    FieldSeen texts o n (pre ++ name) := by
  induction properties with
  | nil => simp at isField
  | cons head rest ih =>
    obtain ⟨first, schema⟩ := head
    simp only [diffProperties, clean_append] at clean
    rcases List.mem_cons.1 isField with isHead | isLater
    · obtain ⟨rfl, rfl⟩ := Prod.mk.inj isHead
      have here := clean.1
      rw [declared] at here
      simp only [clean_append] at here
      refine ⟨here.1, here.2.1, fun objects => ?_, fun notObjects arrays => ?_⟩
      · simpa [objects] using here.2.2
      · simpa [notObjects, arrays] using here.2.2
    · exact ih clean.2 isLater

theorem seen_of_clean {texts : Texts} {old new : Schema} {pre : String}
    (clean : Clean (diff texts old new pre)) : Seen texts old new pre := by
  rw [diff_eq, clean_append, clean_append] at clean
  obtain ⟨removed, required, shared⟩ := clean
  constructor
  · intro name o found
    have isField := lookup_mem found
    have kept : (new.property name).isSome = true := by
      by_contra lost
      have isRemoved : (⟨pre ++ name, .fieldRemoved, true, "field removed"⟩ : SchemaChange) ∈
          removedFields old new pre := by
        simp only [removedFields, List.mem_map, List.mem_filter, List.mem_dedup]
        exact ⟨name, ⟨⟨(name, o), isField, rfl⟩, by simpa using lost⟩, rfl⟩
      exact absurd (removed _ isRemoved) (by simp)
    obtain ⟨n, declared⟩ := Option.isSome_iff_exists.1 kept
    refine ⟨n, declared, ?_⟩
    rcases properties : old.properties with _ | entries
    · simp [properties] at isField
    rw [properties, diffShared] at shared
    rw [properties] at isField
    exact fieldSeen_of_mem declared shared isField
  · intro name isRequired
    by_contra neither
    obtain ⟨newly, declared⟩ := not_or.1 neither
    have isAdded : (⟨pre ++ name, .requiredAdded, true, "field is newly required"⟩ :
        SchemaChange) ∈ requiredFields old new pre := by
      simp only [requiredFields, List.mem_map, List.mem_filter, List.mem_dedup]
      exact ⟨name, ⟨isRequired, by simp [newly, Option.isSome_iff_ne_none, declared]⟩, rfl⟩
    exact absurd (required _ isAdded) (by simp)

end Fdai.Core.Compatibility
