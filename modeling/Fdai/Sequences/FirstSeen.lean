import Mathlib.Data.List.Dedup
import Fdai.Sequences.Batches

/-!
# First occurrences

* `fresh` — the items of a list that were not seen before, each where it first occurs.
* `mem_fresh`, `nodup_fresh`, `fresh_append` — what they are, and how a list is cut.
-/

namespace Fdai.Sequences

variable {α β : Type} {keys : List α}

/-- Of a list of keys, one gives items. -/
theorem flatMap_eq_of_nodup {f : α → List β} {key : α} (nodup : keys.Nodup)
    (isKey : key ∈ keys) (others : ∀ other ∈ keys, other ≠ key → f other = []) :
    keys.flatMap f = f key := by
  induction keys with
  | nil => cases isKey
  | cons first rest ih =>
    rw [List.flatMap_cons]
    obtain ⟨apart, nodup⟩ := List.nodup_cons.1 nodup
    rcases List.mem_cons.1 isKey with rfl | inRest
    · have nothing : rest.flatMap f = [] := List.flatMap_eq_nil_iff.2 fun other isOther =>
        others other (List.mem_cons_of_mem _ isOther) fun same => apart (same ▸ isOther)
      rw [nothing, List.append_nil]
    · rw [others first List.mem_cons_self fun same => apart (same ▸ inRest), List.nil_append]
      exact ih nodup inRest fun other isOther => others other (List.mem_cons_of_mem _ isOther)

variable [DecidableEq α]

/-- The items that were not seen before, each where it first occurs. -/
def fresh (seen : List α) : List α → List α
  | [] => []
  | item :: rest => if item ∈ seen then fresh seen rest else item :: fresh (seen ++ [item]) rest

/-- `dict.fromkeys(…)`: each item where it first occurs. -/
def distinct (items : List α) : List α := fresh [] items

variable {seen items items' : List α} {item : α}

theorem mem_fresh : item ∈ fresh seen items ↔ item ∈ items ∧ item ∉ seen := by
  induction items generalizing seen with
  | nil => simp [fresh]
  | cons first rest ih =>
    rw [fresh]
    split
    · rename_i known
      rw [ih]
      constructor
      · rintro ⟨inRest, unseen⟩
        exact ⟨List.mem_cons_of_mem _ inRest, unseen⟩
      · rintro ⟨isItem, unseen⟩
        exact ⟨List.mem_of_ne_of_mem (fun same => unseen (same ▸ known)) isItem, unseen⟩
    · rename_i unknown
      by_cases same : item = first
      · simp [same, unknown]
      · simp [ih, same]

theorem nodup_fresh : (fresh seen items).Nodup := by
  induction items generalizing seen with
  | nil => exact List.nodup_nil
  | cons first rest ih =>
    rw [fresh]
    split
    · exact ih
    · refine List.nodup_cons.2 ⟨fun again => ?_, ih⟩
      exact (mem_fresh.1 again).2 (by simp)

/-- **A list is cut** where its first part counts as seen for the second. -/
theorem fresh_append :
    fresh seen (items ++ items') = fresh seen items ++ fresh (seen ++ fresh seen items) items' := by
  induction items generalizing seen with
  | nil => simp [fresh]
  | cons first rest ih =>
    rw [List.cons_append, fresh, fresh]
    split
    · exact ih
    · rw [ih, List.cons_append, List.append_assoc, List.singleton_append]

theorem nodup_distinct : (distinct items).Nodup := nodup_fresh

@[simp] theorem mem_distinct : item ∈ distinct items ↔ item ∈ items := by
  simp [distinct, mem_fresh]

/-- The order of the list does not matter, but for the order of the result. -/
theorem distinct_perm (perm : items.Perm items') : (distinct items).Perm (distinct items') :=
  (List.perm_ext_iff_of_nodup nodup_fresh nodup_fresh).2 fun _ => by
    simp only [mem_fresh, perm.mem_iff]

/-- **Groups** of a list, one for each key, are the list again. -/
theorem groups_perm {keyOf : β → α} {values : List β} (nodup : keys.Nodup)
    (all : ∀ value ∈ values, keyOf value ∈ keys) :
    (keys.flatMap fun key => values.filter (keyOf · = key)).Perm values := by
  have flat : (keys.map ([·])).flatten = keys := by
    rw [← List.flatMap_def]
    exact List.flatMap_singleton' keys
  have grouped : ((keys.map ([·])).flatMap fun list =>
      values.filter fun value => keyOf value ∈ list).Perm values :=
    flatMap_filter_perm (by rwa [flat]) (by rwa [flat])
  simpa [List.flatMap_map] using grouped

end Fdai.Sequences
