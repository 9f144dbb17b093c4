import Mathlib.Data.List.Basic
import Mathlib.Order.Lattice

/-!
# First match in an ordered list

* `find?_least` — in a list ordered by a rank, the first element with a property has
  the least rank among all elements with it.
* `outOfOrder` — the elements a scan with a running maximum meets below that maximum;
  `outOfOrder_eq_nil` — there is none exactly if the list is ordered.
-/

namespace Fdai.Sequences

variable {α β : Type*} [LinearOrder β] (rank : α → β)

/-- A list ordered by a rank. -/
abbrev OrderedBy (items : List α) : Prop := items.Pairwise fun a b => rank a ≤ rank b

variable {rank}

/-- **First match.** The first element with a property is one with the least rank. -/
theorem find?_least {p : α → Bool} {items : List α} {first : α}
    (ordered : OrderedBy rank items) (found : items.find? p = some first) :
    ∀ item ∈ items, p item = true → rank first ≤ rank item := by
  intro item isItem holds
  obtain ⟨-, before, after, rfl, without⟩ := List.find?_eq_some_iff_append.1 found
  rcases List.mem_append.1 isItem with isBefore | isAfter
  · have fails := without item isBefore
    simp [holds] at fails
  rcases List.mem_cons.1 isAfter with rfl | later
  · exact le_rfl
  · exact List.rel_of_pairwise_cons (List.pairwise_append.1 ordered).2.1 later

/-- The elements met below the running maximum, which starts at `highest`. -/
def outOfOrder (rank : α → β) (highest : β) : List α → List α
  | [] => []
  | item :: rest =>
    if rank item < highest then item :: outOfOrder rank highest rest
    else outOfOrder rank (rank item) rest

/-- **Running maximum.** The scan meets nothing below it exactly if the list is ordered
and starts no lower. -/
theorem outOfOrder_eq_nil {items : List α} {highest : β} : outOfOrder rank highest items = [] ↔
      (∀ item ∈ items, highest ≤ rank item) ∧ OrderedBy rank items := by
  induction items generalizing highest with
  | nil => simp [outOfOrder]
  | cons item rest ih =>
    by_cases below : rank item < highest
    · simp only [outOfOrder, below, ↓reduceIte, List.cons_ne_nil, false_iff]
      rintro ⟨atLeast, -⟩
      exact absurd below (not_lt.2 (atLeast item (by simp)))
    simp only [outOfOrder, below, ↓reduceIte, ih, List.pairwise_cons]
    constructor
    · rintro ⟨above, ordered⟩
      refine ⟨fun other isOther => ?_, above, ordered⟩
      rcases List.mem_cons.1 isOther with rfl | later
      · exact not_lt.1 below
      · exact (not_lt.1 below).trans (above other later)
    · rintro ⟨-, above, ordered⟩
      exact ⟨above, ordered⟩

end Fdai.Sequences
