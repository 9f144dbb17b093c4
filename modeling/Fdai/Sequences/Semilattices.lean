import Mathlib.Order.Lattice

/-!
# Joins and meets along a list

What is merged from the items of a list that is not empty, by an operation of a semilattice.

* `joinOf`, `meetOf` — the join and the meet of what the items have.
* `joinOf_le_iff`, `le_meetOf_iff` — what is above the one, and below the other.
* `joinOf_mono`, `meetOf_anti` — **more items** raise the join and lower the meet.
-/

namespace Fdai.Sequences

variable {α β : Type}

/-- The join of what the items have. -/
def joinOf [SemilatticeSup β] (part : α → β) (first : α) (rest : List α) : β :=
  rest.foldl (fun merged item => merged ⊔ part item) (part first)

/-- The meet of what the items have. -/
def meetOf [SemilatticeInf β] (part : α → β) (first : α) (rest : List α) : β :=
  rest.foldl (fun merged item => merged ⊓ part item) (part first)

variable {part : α → β} {first first' : α} {rest rest' : List α}

theorem foldl_sup_le_iff [SemilatticeSup β] {start above : β} (rest : List α) :
    rest.foldl (fun merged item => merged ⊔ part item) start ≤ above ↔
      start ≤ above ∧ ∀ item ∈ rest, part item ≤ above := by
  induction rest generalizing start with
  | nil => simp
  | cons item rest ih => rw [List.foldl_cons, ih, sup_le_iff, List.forall_mem_cons, and_assoc]

theorem joinOf_le_iff [SemilatticeSup β] {above : β} :
    joinOf part first rest ≤ above ↔ ∀ item ∈ first :: rest, part item ≤ above := by
  rw [joinOf, foldl_sup_le_iff, List.forall_mem_cons]

theorem le_joinOf [SemilatticeSup β] {item : α} (isItem : item ∈ first :: rest) :
    part item ≤ joinOf part first rest :=
  joinOf_le_iff.1 le_rfl item isItem

/-- **More items** raise the join. -/
theorem joinOf_mono [SemilatticeSup β] (more : ∀ item ∈ first :: rest, item ∈ first' :: rest') :
    joinOf part first rest ≤ joinOf part first' rest' :=
  joinOf_le_iff.2 fun item isItem => le_joinOf (more item isItem)

theorem le_foldl_inf_iff [SemilatticeInf β] {start below : β} (rest : List α) :
    below ≤ rest.foldl (fun merged item => merged ⊓ part item) start ↔
      below ≤ start ∧ ∀ item ∈ rest, below ≤ part item := by
  induction rest generalizing start with
  | nil => simp
  | cons item rest ih => rw [List.foldl_cons, ih, le_inf_iff, List.forall_mem_cons, and_assoc]

theorem le_meetOf_iff [SemilatticeInf β] {below : β} :
    below ≤ meetOf part first rest ↔ ∀ item ∈ first :: rest, below ≤ part item := by
  rw [meetOf, le_foldl_inf_iff, List.forall_mem_cons]

theorem meetOf_le [SemilatticeInf β] {item : α} (isItem : item ∈ first :: rest) :
    meetOf part first rest ≤ part item :=
  le_meetOf_iff.1 le_rfl item isItem

/-- **More items** lower the meet. -/
theorem meetOf_anti [SemilatticeInf β] (more : ∀ item ∈ first :: rest, item ∈ first' :: rest') :
    meetOf part first' rest' ≤ meetOf part first rest :=
  le_meetOf_iff.2 fun item isItem => meetOf_le (more item isItem)

end Fdai.Sequences
