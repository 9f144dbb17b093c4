import Fdai.Providers.Value

/-!
# Stored records

A record of the state store is a mapping. The records that the components write are keyed by
texts; what they read may be any mapping.

* `Record` — the entries of a mapping; `Value.get` reads the value under a text key.
* `Record.ofFields` — a record written field by field.
* `Record.revision` — the revision by which the store compares.
-/

namespace Fdai.Core

/-- The entries of a stored mapping. -/
abbrev Record := List (Value × Value)

/-- A record with these fields. -/
def Record.ofFields (fields : List (String × Value)) : Record :=
  fields.map fun (name, value) => (.str name, value)

@[simp] theorem Record.ofFields_nil : Record.ofFields [] = [] := rfl

@[simp] theorem Record.ofFields_cons (name : String) (value : Value)
    (fields : List (String × Value)) :
    Record.ofFields ((name, value) :: fields) = (.str name, value) :: Record.ofFields fields := rfl

@[simp] theorem Value.get_nil (key : String) : Value.get [] key = none := rfl

@[simp] theorem Value.get_str_cons (name key : String) (value : Value) (rest : Record) :
    Value.get ((.str name, value) :: rest) key =
      if name = key then some value else Value.get rest key := by
  unfold Value.get
  rw [List.find?_cons]
  by_cases same : name = key <;> simp [same]

/-- `isinstance(value, int)` and not a boolean, at least 1. -/
def positive? : Option Value → Option ℕ
  | some (.int number) => if 1 ≤ number then some number.toNat else none
  | _ => none

@[simp] theorem positive?_natCast {number : ℕ} (positive : 1 ≤ number) :
    positive? (some (.int number)) = some number := by
  simp [positive?, positive]

theorem positive?_eq_some {value : Option Value} {number : ℕ}
    (read : positive? value = some number) :
    1 ≤ number ∧ value = some (.int number) := by
  unfold positive? at read
  split at read
  next found =>
    split at read
    next atLeast =>
      obtain rfl := Option.some.inj read
      refine ⟨by omega, ?_⟩
      rw [Int.toNat_of_nonneg (by omega)]
    next => cases read
  next => cases read

/-- The revision of a record, by which `compare_and_set_state` compares. -/
def Record.revision (record : Record) : ℕ :=
  match Value.get record "revision" with
  | some (.int number) => number.toNat
  | _ => 0

theorem Record.revision_of_positive {record : Record} {number : ℕ}
    (read : positive? (Value.get record "revision") = some number) :
    Record.revision record = number := by
  obtain ⟨-, found⟩ := positive?_eq_some read
  simp [Record.revision, found]

end Fdai.Core
