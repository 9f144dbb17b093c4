import Mathlib.Data.List.Sort
import Mathlib.Data.Finset.Dedup

/-!
# Lists sorted by a key

* `sortedBy` — the stable sort of a list by a key; `sortedBy_eq_of_perm` — where keys are unique, the
  order of the list does not matter.
* `sortedTexts` — a finite set, in order.
-/

namespace Fdai.Sequences

variable {α β : Type} [LinearOrder β]

/-- `sorted(…, key=…)`. -/
def sortedBy (key : α → β) (items : List α) : List α := items.insertionSort (key · ≤ key ·)

variable {key : α → β} {items items' : List α}

theorem perm_sortedBy (key : α → β) (items : List α) : (sortedBy key items).Perm items :=
  List.perm_insertionSort _ _

@[simp] theorem mem_sortedBy {item : α} : item ∈ sortedBy key items ↔ item ∈ items :=
  (perm_sortedBy key items).mem_iff

theorem pairwise_sortedBy (key : α → β) (items : List α) :
    (sortedBy key items).Pairwise (key · ≤ key ·) := by
  have total : Std.Total fun a b : α => key a ≤ key b := ⟨fun a b => le_total _ _⟩
  have trans : IsTrans α fun a b : α => key a ≤ key b := ⟨fun _ _ _ => le_trans⟩
  exact List.pairwise_insertionSort _ _

theorem pairwise_sortedBy_of_nodup (unique : (items.map key).Nodup) :
    (sortedBy key items).Pairwise (key · < key ·) := by
  have apart : (sortedBy key items).Pairwise (key · ≠ key ·) :=
    List.pairwise_map.1 (((perm_sortedBy key items).map key).nodup_iff.2 unique)
  exact (pairwise_sortedBy key items).imp₂ (fun _ _ => lt_of_le_of_ne) apart

/-- **The order of the list does not matter** where items of one key are the same. -/
theorem sortedBy_eq_of_perm_of_inj
    (same : ∀ item ∈ items, ∀ other ∈ items, key item = key other → item = other)
    (perm : items.Perm items') : sortedBy key items = sortedBy key items' := by
  have sorted : (sortedBy key items).Perm (sortedBy key items') :=
    (perm_sortedBy key items).trans (perm.trans (perm_sortedBy key items').symm)
  refine sorted.eq_of_pairwise ?_ (pairwise_sortedBy key items) (pairwise_sortedBy key items')
  intro a b isItem isItem' below above
  have inItems : b ∈ items := perm.mem_iff.2 (mem_sortedBy.1 isItem')
  exact same a (mem_sortedBy.1 isItem) b inItems (le_antisymm below above)

/-- The order of the list does not matter where keys are unique. -/
theorem sortedBy_eq_of_perm (unique : (items.map key).Nodup) (perm : items.Perm items') :
    sortedBy key items = sortedBy key items' :=
  sortedBy_eq_of_perm_of_inj
    (fun _ isItem _ isOther => List.inj_on_of_nodup_map unique isItem isOther) perm

/-- `sorted(…)`, of a set. -/
def sortedTexts (texts : Finset β) : List β :=
  Quot.liftOn texts.val (·.insertionSort (· ≤ ·)) fun items items' (perm : items.Perm items') => by
    have sorted : (items.insertionSort (· ≤ ·)).Perm (items'.insertionSort (· ≤ ·)) :=
      (List.perm_insertionSort _ _).trans (perm.trans (List.perm_insertionSort _ _).symm)
    exact sorted.eq_of_pairwise (fun _ _ _ _ => le_antisymm) (List.pairwise_insertionSort _ _)
      (List.pairwise_insertionSort _ _)

@[simp] theorem mem_sortedTexts {texts : Finset β} {text : β} :
    text ∈ sortedTexts texts ↔ text ∈ texts := by
  obtain ⟨⟨items⟩, nodup⟩ := texts
  exact (List.perm_insertionSort _ items).mem_iff

end Fdai.Sequences
