import Fdai.Incident.Rehydrates

/-!
# The rows of the incident store

The registries read, decide and append in steps that interleave, each from an index of its own.
What the store keeps does not depend on them: every row continues the rows before it.

* `Admitted` — a row with a new key that opens an incident, or starts from where it stands.
* `RowsKept` — the invariant, kept by both ways in; `rows_admitted` proves it of every run.
-/

namespace Fdai.Core

open Fdai.Concurrency

/-! ## Rows after rows -/

/-- A row of an open incident that starts from where the rows leave it. -/
def Row.Continues (before : List Row) (opened : OpenEntry) : Row → Prop
  | .opened _ => False
  | .transition entry => currentState before opened = entry.fromState ∧
      entry.toState ∈ legalTransitions entry.fromState
  | .assigned entry => currentAssignee before opened = entry.fromAssigneeOid ∧
      entry.assigneeOid ≠ entry.fromAssigneeOid
  | .severity entry => currentSeverity before opened = entry.fromSeverity ∧
      entry.severity.rank < entry.fromSeverity.rank
  | .members _ | .ticket _ => True

/-- **A row that was admitted** after other rows. -/
structure Admitted (before : List Row) (row : Row) : Prop where
  fresh : ∀ earlier ∈ before, earlier.idempotencyKey ≠ row.idempotencyKey
  /-- It opens an incident that no row opened. -/
  opens : openedRow before row.incidentId = none → ∃ entry, row = .opened entry
  continues : ∀ opened, openedRow before row.incidentId = some opened → row.Continues before opened

variable {rows : List Row} {row : Row}

theorem admitted_of_applied (written : row.Written)
    (accepted : classifyIncidentAppend rows row = .ok .applied) : Admitted rows row := by
  have fresh : ∀ earlier ∈ rows, earlier.idempotencyKey ≠ row.idempotencyKey := by
    unfold classifyIncidentAppend at accepted
    split at accepted
    · split at accepted <;> cases accepted
    · rename_i missed
      simpa using missed
  rcases classifyIncidentAppend_applied accepted with ⟨entry, rfl, unopened⟩ | ⟨opened, found, checked⟩
  · refine ⟨fresh, fun _ => ⟨entry, rfl⟩, fun opened found => ?_⟩
    cases unopened.symm.trans found
  refine ⟨fresh, fun unopened => absurd (found.symm.trans unopened) (Option.some_ne_none _),
    fun other again => ?_⟩
  obtain rfl := Option.some.inj (found.symm.trans again)
  cases row with
  | opened entry =>
    simp only [classifyOpened] at checked
    split at checked <;> cases checked
  | members | ticket => trivial
  | transition entry =>
    simp only [classifyOpened, ite_eq_iff, reduceCtorEq, Except.ok.injEq, and_false, false_or,
      and_true, not_not] at checked
    exact ⟨checked.2, written.legal⟩
  | assigned entry =>
    simp only [classifyOpened, ite_eq_iff, reduceCtorEq, Except.ok.injEq, and_false, false_or,
      and_true, not_not] at checked
    exact ⟨checked.2, fun same => checked.1 (checked.2.trans same.symm)⟩
  | severity entry =>
    simp only [classifyOpened, ite_eq_iff, reduceCtorEq, Except.ok.injEq, and_false, false_or,
      and_true, not_not, not_le] at checked
    obtain ⟨-, starts, higher⟩ := checked
    exact ⟨starts, starts ▸ higher⟩

/-- Every row was admitted after the rows before it. -/
def AllAdmitted (rows : List Row) : Prop :=
  ∀ before row after, rows = before ++ row :: after → Admitted before row

theorem AllAdmitted.concat (admitted : AllAdmitted rows) (last : Admitted rows row) :
    AllAdmitted (rows ++ [row]) := by
  intro before other after split
  rcases after.eq_nil_or_concat' with rfl | ⟨after, latest, rfl⟩
  · obtain ⟨rfl, same⟩ := List.append_inj' split rfl
    obtain rfl := List.singleton_inj.1 same
    exact last
  · rw [← List.cons_append, ← List.append_assoc] at split
    exact admitted before other after (List.append_inj' split rfl).1

theorem digit_inj {a b : ℕ} (same : digit a = digit b) : a % 10 = b % 10 := by
  have digits : ∀ i < 10, ∀ j < 10, Char.ofNat (48 + i) = Char.ofNat (48 + j) → i = j := by decide
  exact digits _ (Nat.mod_lt a (by omega)) _ (Nat.mod_lt b (by omega)) same

/-- **A number tells its month and its sequence.** -/
theorem incidentNumberFor_inj {month month' number : String} {sequence sequence' : ℕ}
    (given : incidentNumberFor month sequence = .ok number)
    (given' : incidentNumberFor month' sequence' = .ok number) :
    month = month' ∧ sequence = sequence' := by
  have parts {month : String} {sequence : ℕ} (given : incidentNumberFor month sequence = .ok number) :
      sequence ≤ 9999 ∧ number.toList = month.toList ++ ['-', digit (sequence / 1000),
        digit (sequence / 100), digit (sequence / 10), digit sequence] := by
    unfold incidentNumberFor at given
    extract_lets digits parse year month_ at given
    split_ifs at given
    obtain rfl := Except.ok.inj given
    exact ⟨by omega, String.toList_ofList⟩
  obtain ⟨below, text⟩ := parts given
  obtain ⟨below', text'⟩ := parts given'
  obtain ⟨months, digits⟩ := List.append_inj' (text.symm.trans text') rfl
  simp only [List.cons.injEq, true_and, and_true] at digits
  obtain ⟨thousands, hundreds, tens, ones⟩ := digits
  have := digit_inj thousands
  have := digit_inj hundreds
  have := digit_inj tens
  have := digit_inj ones
  exact ⟨String.toList_inj.1 months, by omega⟩

/-- The number of an opening row. -/
def Row.number : Row → Option String
  | .opened entry => entry.incidentNumber
  | _ => none

/-! ## The store -/

/-- **What the store keeps.** -/
structure RowsKept (store : IncidentStore) : Prop where
  admitted : AllAdmitted store.rows
  /-- An opening row has a number whose sequence was used. -/
  numbered : ∀ entry, .opened entry ∈ store.rows → ∃ month sequence number,
    sequence < store.sequences month ∧ incidentNumberFor month sequence = .ok number ∧
      entry.incidentNumber = some number
  /-- No two incidents have the same number. -/
  distinct : (store.rows.filterMap Row.number).Nodup

variable {store : IncidentStore}

theorem append_keeps (kept : RowsKept store) (written : row.Written) :
    RowsKept (store.append row).2 := by
  rcases append_cases store row with ⟨same, -⟩ | ⟨accepted, another, -, grown⟩
  · rw [same]
    exact kept
  rw [grown]
  have unnumbered : row.number = none := by
    cases row with
    | opened entry => exact absurd rfl (another entry)
    | members | severity | assigned | ticket | transition => rfl
  refine ⟨kept.admitted.concat (admitted_of_applied written accepted), fun entry isRow => ?_, ?_⟩
  · rcases List.mem_append.1 isRow with isRow | isNew
    · exact kept.numbered entry isRow
    · exact absurd (List.mem_singleton.1 isNew).symm (another entry)
  · simpa [List.filterMap_append, unnumbered] using kept.distinct

/-- **What an opening does**, with the number that it is given. -/
theorem appendOpen_numbers (store : IncidentStore) (row : Row) (month : String) :
    (store.appendOpen row month).2 = store ∨ ∃ opened number, row = .opened opened ∧
      classifyIncidentAppend store.rows row = .ok .applied ∧
      incidentNumberFor month (store.sequences month) = .ok number ∧
      (store.appendOpen row month).2 =
        { rows := store.rows ++ [.opened { opened with incidentNumber := some number }]
          sequences := Function.update store.sequences month (store.sequences month + 1) } := by
  unfold IncidentStore.appendOpen
  cases row with
  | members | severity | assigned | ticket | transition => exact .inl rfl
  | opened opened =>
    dsimp only
    split
    · exact .inl rfl
    · exact .inl rfl
    · rename_i accepted
      cases given : incidentNumberFor month (store.sequences month) with
      | error message => exact .inl rfl
      | ok number => exact .inr ⟨opened, number, rfl, accepted, rfl, rfl⟩

theorem appendOpen_keeps {month : String} (kept : RowsKept store) (written : row.Written) :
    RowsKept (store.appendOpen row month).2 := by
  rcases appendOpen_numbers store row month with same | ⟨opened, number, rfl, accepted, given, grown⟩
  · rw [same]
    exact kept
  rw [grown]
  obtain ⟨fresh, opens, continues⟩ := admitted_of_applied written accepted
  have used (m : String) : store.sequences m ≤
      Function.update store.sequences month (store.sequences month + 1) m := by
    by_cases same : m = month
    · subst same
      rw [Function.update_self]
      omega
    · rw [Function.update_of_ne same]
  refine ⟨kept.admitted.concat ⟨fresh, fun _ => ⟨_, rfl⟩, continues⟩, fun entry isRow => ?_, ?_⟩
  · rcases List.mem_append.1 isRow with isRow | isNew
    · obtain ⟨m, sequence, text, below, numbered⟩ := kept.numbered entry isRow
      exact ⟨m, sequence, text, below.trans_le (used m), numbered⟩
    · obtain rfl := Row.opened.inj (List.mem_singleton.1 isNew)
      refine ⟨month, store.sequences month, number, ?_, given, rfl⟩
      dsimp only
      rw [Function.update_self]
      omega
  · rw [List.filterMap_append, List.nodup_append']
    refine ⟨kept.distinct, List.nodup_singleton number, ?_⟩
    -- the sequence of the month was not used before
    rintro text isNumber isNew
    obtain rfl := List.mem_singleton.1 isNew
    obtain ⟨other, isRow, hasNumber⟩ := List.mem_filterMap.1 isNumber
    cases other with
    | opened entry =>
      obtain ⟨m, sequence, text, below, given', same⟩ := kept.numbered entry isRow
      obtain rfl := Option.some.inj (hasNumber.symm.trans same)
      obtain ⟨rfl, rfl⟩ := incidentNumberFor_inj given given'
      exact absurd below (lt_irrefl _)
    | members | severity | assigned | ticket | transition => cases hasNumber

/-- Registries over one store: every call appends rows of a registry only. -/
def rowsDiscipline : Discipline RegistryOp RegistryOp.Ans RegistryWorld where
  permit _ _ := Writing
  answers := registryMachine.Answers fun _ _ => True
  inv w := RowsKept w.store
  kept := by
    rintro _ w op a w' writing ⟨-, oracle, performed⟩ holds
    obtain ⟨rfl, rfl⟩ := Prod.mk.inj performed
    cases op with
    | append entry => exact append_keeps holds writing
    | appendOpen entry month => exact appendOpen_keeps holds writing
    | getIndex | putIncident | setIndex | readTransitions | now | numberClock | project =>
      exact holds

/-- **The rows of every run**: each was admitted after the rows before it, no number is given twice,
and no later move changes them. -/
theorem rows_admitted (moves more : List (Move RegistryCall RegistryOracle)) :
    RowsKept (registryMachine.run (Machine.idle {}) moves).world.store ∧
      (registryMachine.run (Machine.idle {}) moves).world.store.rows <+:
        (registryMachine.run (Machine.idle {}) (moves ++ more)).world.store.rows := by
  have empty : RowsKept {} := ⟨fun _ _ _ split => by simp at split, nofun, List.nodup_nil⟩
  refine ⟨Machine.run_inv (D := rowsDiscipline) (fun answered => answered)
    (fun replica call w holds => ?_) empty (registryMachine.observes_true _ moves), ?_⟩
  · exact Program.Only.sat (F := fun _ => True) (fun op writing _ _ => writing) (fun _ _ => trivial)
      (fun _ _ _ => trivial) (writes_program call) trivial
  · rw [Machine.run_append]
    exact rows_run _ more

end Fdai.Core
