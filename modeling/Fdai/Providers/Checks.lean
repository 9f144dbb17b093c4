import Mathlib.Data.List.Forall2

/-!
# Checks in order

A validator that raises at the first check that fails, as a table of conditions and errors.

* `validate` — the error of the first condition that does not hold.
* `validate_eq_ok` — it passes exactly if every condition holds.
* `Valid`, `construct` — the fields that a constructor accepts, and the constructor.
* `bind_eq_ok`, `check_bind_eq_ok`, `mapM_eq_ok_iff` — a sequence of fallible steps succeeds exactly
  if each of them does.
-/

namespace Fdai.Core

variable {ε α β : Type}

/-- The checks of a validator: the first condition that fails raises its error. -/
def validate : List (Bool × ε) → Except ε Unit
  | [] => .ok ()
  | (holds, error) :: rest => if holds then validate rest else .error error

@[simp] theorem validate_nil : validate ([] : List (Bool × ε)) = .ok () := rfl

/-- **A validator passes** exactly if every check does. -/
@[simp] theorem validate_cons_eq_ok {check : Bool × ε} {rest : List (Bool × ε)} :
    validate (check :: rest) = .ok () ↔ check.1 = true ∧ validate rest = .ok () := by
  obtain ⟨holds, error⟩ := check
  cases holds with
  | true | false => simp [validate]

theorem validate_append_eq_ok {checks more : List (Bool × ε)} :
    validate (checks ++ more) = .ok () ↔ validate checks = .ok () ∧ validate more = .ok () := by
  induction checks with
  | nil => simp
  | cons check checks ih => rw [List.cons_append, validate_cons_eq_ok, validate_cons_eq_ok, ih,
      and_assoc]

variable {f : α → Except ε β}

/-- Going on after a step that succeeds. -/
theorem bind_eq_ok {p : Except ε α} {b : β} : (p >>= f) = .ok b ↔ ∃ a, p = .ok a ∧ f a = .ok b := by
  rcases p with e | a
  · constructor
    · intro h
      cases h
    · rintro ⟨_, h, -⟩
      cases h
  constructor
  · intro h
    exact ⟨a, rfl, h⟩
  · rintro ⟨_, same, h⟩
    obtain rfl := Except.ok.inj same
    exact h

/-- Going on after a check that passes. -/
theorem check_bind_eq_ok {p : Except ε Unit} {f : Unit → Except ε β} {b : β} :
    (p >>= f) = .ok b ↔ p = .ok () ∧ f () = .ok b := by
  rw [bind_eq_ok]
  exact ⟨fun ⟨(), passed, h⟩ => ⟨passed, h⟩, fun ⟨passed, h⟩ => ⟨(), passed, h⟩⟩

variable {items : List α} {results : List β}

/-- A fallible step, item by item. -/
theorem mapM_eq_ok_iff :
    items.mapM f = .ok results ↔ List.Forall₂ (fun item result => f item = .ok result) items
      results := by
  induction items generalizing results with
  | nil =>
    rw [List.mapM_nil, List.forall₂_nil_left_iff]
    exact ⟨fun same => (Except.ok.inj same).symm, fun same => by rw [same]; rfl⟩
  | cons item rest ih =>
    rw [List.mapM_cons, bind_eq_ok, List.forall₂_cons_left_iff]
    constructor
    · rintro ⟨result, isResult, others⟩
      obtain ⟨results, rest, same⟩ := bind_eq_ok.1 others
      exact ⟨result, results, isResult, ih.1 rest, (Except.ok.inj same).symm⟩
    · rintro ⟨result, results, isResult, others, rfl⟩
      exact ⟨result, isResult, bind_eq_ok.2 ⟨results, ih.2 others, rfl⟩⟩

/-- What holds of each result of a fallible step. -/
theorem forall_of_mapM {P : β → Prop} (mapped : items.mapM f = .ok results)
    (each : ∀ item ∈ items, ∀ result, f item = .ok result → P result) :
    ∀ result ∈ results, P result := by
  have pairs := mapM_eq_ok_iff.1 mapped
  clear mapped
  induction pairs with
  | nil => exact fun _ isResult => absurd isResult List.not_mem_nil
  | cons isResult _ ih =>
    intro result inside
    rcases List.mem_cons.1 inside with rfl | inside
    · exact each _ List.mem_cons_self _ isResult
    · exact ih (fun item isItem => each item (List.mem_cons_of_mem _ isItem)) result inside

theorem length_of_mapM (mapped : items.mapM f = .ok results) : results.length = items.length :=
  (mapM_eq_ok_iff.1 mapped).length_eq.symm

/-- What a fallible step keeps of each item. -/
theorem map_of_mapM {γ : Type} {g : β → γ} {h : α → γ} (mapped : items.mapM f = .ok results)
    (keeps : ∀ item result, f item = .ok result → g result = h item) :
    results.map g = items.map h := by
  have pairs := mapM_eq_ok_iff.1 mapped
  clear mapped
  induction pairs with
  | nil => rfl
  | cons isResult _ ih => rw [List.map_cons, List.map_cons, keeps _ _ isResult, ih]

/-- Each step of a fallible sequence that succeeds has succeeded. -/
theorem exists_of_mapM
    (mapped : items.mapM f = .ok results) : ∀ item ∈ items, ∃ result, f item = .ok result := by
  have pairs := mapM_eq_ok_iff.1 mapped
  clear mapped
  induction pairs with
  | nil => exact fun _ isItem => absurd isItem List.not_mem_nil
  | cons isResult _ ih =>
    intro item isItem
    rcases List.mem_cons.1 isItem with rfl | isItem
    · exact ⟨_, isResult⟩
    · exact ih item isItem

theorem mapM_checked {f : α → β} {check : β → Except ε Unit}
    (pass : ∀ item ∈ items, check (f item) = .ok ()) :
    (items.mapM fun item => do
      check (f item)
      return f item) = .ok (items.map f) := by
  rw [mapM_eq_ok_iff]
  induction items with
  | nil => exact .nil
  | cons item items ih =>
    refine .cons ?_ (ih fun other isItem => pass other (List.mem_cons_of_mem _ isItem))
    rw [pass item List.mem_cons_self]
    rfl

/-- The fields of a record that its constructor accepts. -/
abbrev Valid (check : α → Except ε Unit) := { fields : α // check fields = .ok () }

/-- Construct a record, or raise. -/
def construct (check : α → Except ε Unit) (fields : α) : Except ε (Valid check) :=
  match passed : check fields with
  | .ok () => .ok ⟨fields, passed⟩
  | .error error => .error error

theorem construct_eq_ok {check : α → Except ε Unit} {fields : α} {record : Valid check} :
    construct check fields = .ok record ↔ record.val = fields := by
  unfold construct
  split
  · rename_i passed
    constructor
    · intro same
      cases same
      rfl
    · rintro rfl
      rfl
  · rename_i error failed
    constructor
    · intro same
      cases same
    · rintro rfl
      rw [record.2] at failed
      cases failed

end Fdai.Core
