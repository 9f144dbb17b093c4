import Fdai.Documents.CanonicalJson

/-!
# Python's equality of JSON values

`==` on what `json.loads` returns. Numbers and booleans are compared by number, so
`True == 1 == 1.0`; two dictionaries by what is under their keys, in any order.

* `Json.pyEq` — `==`.
* `Json.isTruthy`, `Json.orText` — the truth of a value, and `str(value or default)`.
* `Json.isFinite` — what `json.dumps(…, allow_nan=False)` accepts.
* `Json.pyEq_self` — a canonical finite value equals itself.
-/

namespace Fdai.Documents

open Fdai.Core (PyFloat)

namespace Json

/-- The number a value counts as in a comparison. -/
def number : Json → Option PyFloat
  | .bool b => some (.finite (if b then 1 else 0))
  | .int z => some (.finite z)
  | .float f => some f
  | _ => none

/-- `==` of two values that are not both lists or both dictionaries. -/
def scalarEq (a b : Json) : Bool :=
  match a.number, b.number with
  | some x, some y => x.pyEq y
  | _, _ =>
    match a, b with
    | .text s, .text t => s = t
    | .null, .null => true
    | _, _ => false

mutual

/-- `==`. -/
def pyEq : Json → Json → Bool
  | .list as, .list bs => pyEqItems as bs
  | .object as, .object bs => as.length = bs.length && pyEqFields as bs
  | a, b => scalarEq a b

def pyEqItems : List Json → List Json → Bool
  | [], [] => true
  | a :: as, b :: bs => a.pyEq b && pyEqItems as bs
  | _, _ => false

/-- What is under each key of the one dictionary equals what is under it in the other. -/
def pyEqFields : List (String × Json) → List (String × Json) → Bool
  | [], _ => true
  | (name, a) :: as, bs =>
    (match bs.lookup name with
      | some b => a.pyEq b
      | none => false) && pyEqFields as bs

end

def isTruthy : Json → Bool
  | .null => false
  | .bool value => value
  | .int value => value ≠ 0
  | .float value => !value.pyEq (.finite 0)
  | .text value => value ≠ ""
  | .list items => items ≠ []
  | .object fields => fields ≠ []

/-- `str(value or default)`, of a value that may be missing. -/
def orText (str : Json → String) (value : Option Json) (default : String) : String :=
  match value with
  | some (.text words) => if words = "" then default else words
  | some value => if isTruthy value then str value else default
  | none => default

mutual

/-- `json.dumps(…, allow_nan=False)` accepts the value: each float in it is finite. -/
def isFinite : Json → Bool
  | .float (.finite _) => true
  | .float _ => false
  | .list items => isFiniteItems items
  | .object fields => isFiniteFields fields
  | _ => true

def isFiniteItems : List Json → Bool
  | [] => true
  | item :: items => item.isFinite && isFiniteItems items

def isFiniteFields : List (String × Json) → Bool
  | [] => true
  | (_, value) :: rest => value.isFinite && isFiniteFields rest

end

/-- The fields of a dictionary whose names are in order are found under their names. -/
theorem lookup_of_inOrder {fields : List (String × Json)} {name : String} {value : Json}
    (ordered : InOrder fields) (isField : (name, value) ∈ fields) :
    fields.lookup name = some value := by
  induction fields with
  | nil => cases isField
  | cons field rest ih =>
    obtain ⟨first, content⟩ := field
    obtain ⟨least, restOrdered⟩ := List.pairwise_cons.1 ordered
    rw [List.lookup_cons]
    rcases List.mem_cons.1 isField with here | later
    · obtain ⟨rfl, rfl⟩ := Prod.mk.inj here
      simp
    have apart : name ≠ first := (least name (List.mem_map_of_mem later)).ne'
    rw [beq_eq_false_iff_ne.2 apart]
    exact ih restOrdered later

theorem inOrder_of_canonical {fields : List (String × Json)}
    (canonical_ : canonicalFields fields = fields) : InOrder fields := by
  rw [← canonical_]
  exact inOrder_canonicalFields fields

mutual

/-- **A canonical finite value** equals itself. -/
theorem pyEq_self : ∀ {value : Json}, value.canonical = value → value.isFinite = true →
    value.pyEq value = true
  | .null, _, _ => rfl
  | .bool b, _, _ => by cases b <;> rfl
  | .int z, _, _ => by simp [pyEq, scalarEq, number, PyFloat.pyEq, PyFloat.le]
  | .float (.finite q), _, _ => by simp [pyEq, scalarEq, number, PyFloat.pyEq, PyFloat.le]
  | .float (.infinite _), _, finite | .float .nan, _, finite => by cases finite
  | .text s, _, _ => by simp [pyEq, scalarEq, number]
  | .list items, canonical_, finite => by
    show pyEqItems items items = true
    exact pyEqItems_self (Json.list.inj canonical_) finite
  | .object fields, canonical_, finite => by
    have fixed : canonicalFields fields = fields := Json.object.inj canonical_
    have ordered := inOrder_of_canonical fixed
    show (decide (fields.length = fields.length) && pyEqFields fields fields) = true
    rw [decide_eq_true rfl, Bool.true_and]
    refine pyEqFields_self (fun field isField => ?_) finite fun field isField =>
      lookup_of_inOrder ordered isField
    exact canonical_values_canonicalFields fields field (fixed.symm ▸ isField)

theorem pyEqItems_self : ∀ {items : List Json}, canonicalItems items = items →
    isFiniteItems items = true → pyEqItems items items = true
  | [], _, _ => rfl
  | item :: items, canonical_, finite => by
    obtain ⟨first, rest⟩ := List.cons.inj canonical_
    obtain ⟨firstFinite, restFinite⟩ := Bool.and_eq_true_iff.1 finite
    show (item.pyEq item && pyEqItems items items) = true
    rw [pyEq_self first firstFinite, pyEqItems_self rest restFinite]
    rfl

theorem pyEqFields_self : ∀ {fields all : List (String × Json)},
    (∀ field ∈ fields, field.2.canonical = field.2) → isFiniteFields fields = true →
    (∀ field ∈ fields, all.lookup field.1 = some field.2) → pyEqFields fields all = true
  | [], _, _, _, _ => rfl
  | (name, value) :: rest, all, canonical_, finite, found => by
    obtain ⟨firstFinite, restFinite⟩ := Bool.and_eq_true_iff.1 finite
    have here := found (name, value) List.mem_cons_self
    have fixed : value.canonical = value := canonical_ (name, value) List.mem_cons_self
    have others : pyEqFields rest all = true :=
      pyEqFields_self (fun field isField => canonical_ field (List.mem_cons_of_mem _ isField))
        restFinite fun field isField => found field (List.mem_cons_of_mem _ isField)
    unfold pyEqFields
    simp only [here, pyEq_self fixed firstFinite, others, Bool.and_self]

end

end Json

end Fdai.Documents
