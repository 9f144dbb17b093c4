import Mathlib.Data.String.Basic
import Mathlib.Data.List.Lemmas
import Fdai.Providers.Value

/-!
# Canonical JSON

What `json.dumps` is given and `json.loads` returns. A canonical text, with the keys of every
object in order, is kept as the value it encodes.

* `Json` — a value; the fields of an object are looked up by their names.
* `Json.canonical` — the value with its fields in order; `lookup_canonicalFields` says that no
  lookup sees the difference.
* `Json.canonical_canonical` — a canonical text is the canonical text of what it is read as.
-/

namespace Fdai.Documents

open Fdai.Core (PyFloat)

inductive Json where
  | null
  | bool (value : Bool)
  | int (value : ℤ)
  | float (value : PyFloat)
  | text (value : String)
  | list (items : List Json)
  | object (fields : List (String × Json))

namespace Json

def texts (values : List String) : Json := .list (values.map .text)

/-- A text, or `null`. -/
def optional : Option String → Json
  | some value => .text value
  | none => .null

/-- What is looked up in an object; other values have no fields. -/
def get : Json → String → Option Json
  | .object fields, name => fields.lookup name
  | _, _ => none

mutual

/-- Two values are the same. -/
def same : Json → Json → Bool
  | .null, .null => true
  | .bool a, .bool b => a = b
  | .int a, .int b => a = b
  | .float a, .float b => a = b
  | .text a, .text b => a = b
  | .list as, .list bs => sameItems as bs
  | .object as, .object bs => sameFields as bs
  | _, _ => false

def sameItems : List Json → List Json → Bool
  | [], [] => true
  | a :: as, b :: bs => a.same b && sameItems as bs
  | _, _ => false

def sameFields : List (String × Json) → List (String × Json) → Bool
  | [], [] => true
  | (name, a) :: as, (name', b) :: bs => name = name' && a.same b && sameFields as bs
  | _, _ => false

end

mutual

theorem same_iff : ∀ {a b : Json}, a.same b = true ↔ a = b
  | .null, b | .bool _, b | .int _, b | .float _, b | .text _, b => by
    cases b <;> simp [same]
  | .list as, b => by
    cases b with
    | list bs => simp [same, sameItems_iff]
    | null | bool | int | float | text | object => simp [same]
  | .object as, b => by
    cases b with
    | object bs => simp [same, sameFields_iff]
    | null | bool | int | float | text | list => simp [same]

theorem sameItems_iff : ∀ {as bs : List Json}, sameItems as bs = true ↔ as = bs
  | [], bs => by cases bs <;> simp [sameItems]
  | a :: as, bs => by
    cases bs with
    | nil => simp [sameItems]
    | cons b bs => simp [sameItems, same_iff, sameItems_iff]

theorem sameFields_iff : ∀ {as bs : List (String × Json)}, sameFields as bs = true ↔ as = bs
  | [], bs => by cases bs <;> simp [sameFields]
  | (name, a) :: as, bs => by
    rcases bs with _ | ⟨b, bs⟩
    · simp [sameFields]
    obtain ⟨name', b⟩ := b
    simp [sameFields, same_iff, sameFields_iff, and_assoc]

end

instance : DecidableEq Json := fun _ _ => decidable_of_iff _ same_iff

/-! ## Fields in order -/

/-- Put a field in its place. -/
def insertField (name : String) (value : Json) : List (String × Json) → List (String × Json)
  | [] => [(name, value)]
  | (other, content) :: rest =>
    if name < other then (name, value) :: (other, content) :: rest
    else if name = other then (name, value) :: rest
    else (other, content) :: insertField name value rest

mutual

/-- `json.dumps` with its keys in order. -/
def canonical : Json → Json
  | .list items => .list (canonicalItems items)
  | .object fields => .object (canonicalFields fields)
  | value => value

def canonicalItems : List Json → List Json
  | [] => []
  | item :: items => item.canonical :: canonicalItems items

def canonicalFields : List (String × Json) → List (String × Json)
  | [] => []
  | (name, value) :: rest => insertField name value.canonical (canonicalFields rest)

end

section

variable {name other : String} {value : Json} {fields : List (String × Json)}

theorem lookup_insertField : (insertField name value fields).lookup other =
    if other = name then some value else fields.lookup other := by
  induction fields with
  | nil =>
    unfold insertField
    rw [List.lookup_cons]
    by_cases same : other = name
    · simp [same]
    · simp [same, beq_eq_false_iff_ne.2 same]
  | cons field rest ih =>
    obtain ⟨first, content⟩ := field
    unfold insertField
    by_cases before : name < first
    · rw [if_pos before, List.lookup_cons]
      by_cases same : other = name
      · simp [same]
      · simp [same, beq_eq_false_iff_ne.2 same]
    rw [if_neg before]
    by_cases here : name = first
    · rw [if_pos here, List.lookup_cons, List.lookup_cons, here]
      by_cases same : other = first
      · simp [same]
      · simp [same, beq_eq_false_iff_ne.2 same]
    rw [if_neg here, List.lookup_cons, List.lookup_cons, ih]
    by_cases same : other = first
    · simp [same, Ne.symm here]
    · simp [beq_eq_false_iff_ne.2 same]

/-- **No lookup sees the order** of the fields. -/
theorem lookup_canonicalFields (fields : List (String × Json)) (name : String) :
    (canonicalFields fields).lookup name = (fields.lookup name).map canonical := by
  induction fields with
  | nil => rfl
  | cons field rest ih =>
    obtain ⟨first, content⟩ := field
    rw [canonicalFields, lookup_insertField, List.lookup_cons, ih]
    by_cases same : name = first
    · simp [same]
    · simp [same, beq_eq_false_iff_ne.2 same]

theorem get_canonical (value : Json) (name : String) :
    value.canonical.get name = (value.get name).map canonical := by
  cases value with
  | object fields => exact lookup_canonicalFields fields name
  | null | bool | int | float | text | list => rfl

theorem canonicalItems_eq_map (items : List Json) : canonicalItems items = items.map canonical := by
  induction items with
  | nil => rfl
  | cons item items ih => rw [canonicalItems, ih, List.map_cons]

@[simp] theorem canonical_texts (values : List String) : (texts values).canonical = texts values := by
  show Json.list (canonicalItems _) = _
  rw [canonicalItems_eq_map, List.map_map]
  rfl

@[simp] theorem canonical_optional (value : Option String) :
    (optional value).canonical = optional value := by
  cases value <;> rfl

theorem mem_names_insertField : other ∈ (insertField name value fields).map Prod.fst ↔
    other = name ∨ other ∈ fields.map Prod.fst := by
  induction fields with
  | nil => simp [insertField]
  | cons field rest ih =>
    obtain ⟨first, content⟩ := field
    unfold insertField
    split
    · simp
    split
    · rename_i here
      simp [here]
    · rw [List.map_cons, List.mem_cons, ih, List.map_cons, List.mem_cons]
      exact or_left_comm

theorem mem_names_canonicalFields (fields : List (String × Json)) (name : String) :
    name ∈ (canonicalFields fields).map Prod.fst ↔ name ∈ fields.map Prod.fst := by
  induction fields with
  | nil => rfl
  | cons field rest ih =>
    obtain ⟨first, content⟩ := field
    rw [canonicalFields, mem_names_insertField, ih, List.map_cons, List.mem_cons]

/-! ## Reading a canonical text -/

/-- The names are in order. -/
def InOrder (fields : List (String × Json)) : Prop := (fields.map Prod.fst).Pairwise (· < ·)

theorem inOrder_insertField (ordered : InOrder fields) : InOrder (insertField name value fields) := by
  induction fields with
  | nil => exact List.pairwise_singleton _ _
  | cons field rest ih =>
    obtain ⟨first, content⟩ := field
    obtain ⟨least, restOrdered⟩ := List.pairwise_cons.1 ordered
    unfold insertField
    split
    · rename_i before
      refine List.pairwise_cons.2 ⟨?_, ordered⟩
      intro later isLater
      rcases List.mem_cons.1 isLater with rfl | isLater
      · exact before
      · exact before.trans (least later isLater)
    · rename_i notBefore
      split
      · rename_i here
        subst here
        exact List.pairwise_cons.2 ⟨least, restOrdered⟩
      rename_i apart
      refine List.pairwise_cons.2 ⟨?_, ih restOrdered⟩
      intro later isLater
      rcases mem_names_insertField.1 isLater with rfl | isLater
      · exact lt_of_le_of_ne (not_lt.1 notBefore) (Ne.symm apart)
      · exact least later isLater

theorem inOrder_canonicalFields (fields : List (String × Json)) :
    InOrder (canonicalFields fields) := by
  induction fields with
  | nil => exact List.Pairwise.nil
  | cons field rest ih => exact inOrder_insertField ih

/-- A field that is before all others is put in front. -/
theorem insertField_of_inOrder (ordered : InOrder ((name, value) :: fields)) :
    insertField name value fields = (name, value) :: fields := by
  rcases fields with _ | ⟨field, rest⟩
  · rfl
  obtain ⟨first, content⟩ := field
  have before : name < first := (List.pairwise_cons.1 ordered).1 first List.mem_cons_self
  exact if_pos before

theorem canonicalFields_of_inOrder (ordered : InOrder fields)
    (values : ∀ field ∈ fields, field.2.canonical = field.2) : canonicalFields fields = fields := by
  induction fields with
  | nil => rfl
  | cons field rest ih =>
    obtain ⟨first, content⟩ := field
    have others : canonicalFields rest = rest := by
      refine ih (List.pairwise_cons.1 ordered).2 fun field isField => ?_
      exact values field (List.mem_cons_of_mem _ isField)
    have here : content.canonical = content := values (first, content) List.mem_cons_self
    rw [canonicalFields, here, others]
    exact insertField_of_inOrder ordered

theorem mem_insertField {field : String × Json} (isField : field ∈ insertField name value fields) :
    field = (name, value) ∨ field ∈ fields := by
  induction fields with
  | nil => exact .inl (List.mem_singleton.1 isField)
  | cons first rest ih =>
    obtain ⟨first, content⟩ := first
    unfold insertField at isField
    split at isField
    · exact List.mem_cons.1 isField
    split at isField
    · exact (List.mem_cons.1 isField).imp_right (List.mem_cons_of_mem _)
    rcases List.mem_cons.1 isField with rfl | isField
    · exact .inr List.mem_cons_self
    · exact (ih isField).imp_right (List.mem_cons_of_mem _)

end

mutual

/-- **A canonical value** is its own canonical value. -/
theorem canonical_canonical : ∀ value : Json, value.canonical.canonical = value.canonical
  | .null | .bool _ | .int _ | .float _ | .text _ => rfl
  | .list items => by
    show Json.list (canonicalItems (canonicalItems items)) = .list (canonicalItems items)
    rw [canonicalItems_canonicalItems items]
  | .object fields => by
    show Json.object (canonicalFields (canonicalFields fields)) = .object (canonicalFields fields)
    rw [canonicalFields_of_inOrder (inOrder_canonicalFields fields)
      (canonical_values_canonicalFields fields)]

theorem canonicalItems_canonicalItems : ∀ items : List Json,
    canonicalItems (canonicalItems items) = canonicalItems items
  | [] => rfl
  | item :: items => by
    show item.canonical.canonical :: canonicalItems (canonicalItems items) = _
    rw [canonical_canonical item, canonicalItems_canonicalItems items]
    rfl

theorem canonical_values_canonicalFields : ∀ (fields : List (String × Json)),
    ∀ field ∈ canonicalFields fields, field.2.canonical = field.2
  | [], _, isField => absurd isField List.not_mem_nil
  | (_, value) :: rest, field, isField => by
    rcases mem_insertField isField with rfl | isField
    · exact canonical_canonical value
    · exact canonical_values_canonicalFields rest field isField

end

end Json

end Fdai.Documents
