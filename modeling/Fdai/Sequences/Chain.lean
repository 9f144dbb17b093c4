import Mathlib.Data.List.Chain

/-!
# Chains

What holds along a list each of whose elements is related to the next one.

* `pairwise_of_step` — a transitive relation between neighbours holds between any two.
* `chain_until` — what every step keeps, unless something happens, holds up to the first
  time it happens.
-/

namespace Fdai.Sequences

variable {α : Type*} {R S : α → α → Prop}

/-- **Far apart.** A transitive relation that every step implies. -/
theorem pairwise_of_step {chain : List α} (transitive : ∀ a b c, S a b → S b c → S a c)
    (step : ∀ a b, R a b → S a b) (isChain : chain.IsChain R) : chain.Pairwise S := by
  have : IsTrans α S := ⟨transitive⟩
  exact List.isChain_iff_pairwise.1 (isChain.imp fun a b => step a b)

/-- **Until.** `D` holds after the first element and every step keeps it, except at an
element with `Q`: then it holds at a later element, or one in between has `Q`. -/
theorem chain_until {D Q : α → Prop} {first last : α} {between after : List α}
    (isChain : (first :: (between ++ last :: after)).IsChain R)
    (start : ∀ next, R first next → D next)
    (step : ∀ a b, R a b → D a → ¬ Q a → D b) :
    D last ∨ ∃ item ∈ between, Q item := by
  induction between generalizing first with
  | nil => exact .inl (start last (List.isChain_cons_cons.1 isChain).1)
  | cons next rest ih =>
    obtain ⟨related, isChain⟩ := List.isChain_cons_cons.1 isChain
    by_cases happens : Q next
    · exact .inr ⟨next, by simp, happens⟩
    rcases ih isChain fun later toLater => step next later toLater (start next related) happens
      with holds | ⟨item, isItem, happens⟩
    · exact .inl holds
    · exact .inr ⟨item, List.mem_cons_of_mem _ isItem, happens⟩

end Fdai.Sequences
