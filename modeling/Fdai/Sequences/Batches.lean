import Mathlib.Data.List.Nodup
import Mathlib.Data.List.Perm.Subperm

/-!
# A list in batches

The slices of a list at the multiples of a size, as `range(0, len(items), size)` gives them.

* `batches_cons` — the first batch, and the batches of what is left.
* `flatten_batches` — together they are the list.
-/

namespace Fdai.Sequences

variable {α β : Type} {size : ℕ}

/-- The slices of a list at the multiples of a size. -/
def batches (size : ℕ) (items : List α) : List (List α) :=
  (List.range ((items.length + size - 1) / size)).map fun k => (items.drop (size * k)).take size

theorem batches_nil : batches size ([] : List α) = [] := by
  unfold batches
  rcases size with _ | size
  · simp
  rw [List.length_nil, Nat.zero_add, Nat.succ_sub_one, Nat.div_eq_of_lt (Nat.lt_succ_self size)]
  rfl

/-- **The first batch**, and the batches of what is left. -/
theorem batches_cons {items : List α} (positive : 0 < size) (nonempty : items ≠ []) :
    batches size items = items.take size :: batches size (items.drop size) := by
  have long : 0 < items.length := List.length_pos_of_ne_nil nonempty
  have count : (items.length + size - 1) / size =
      ((items.drop size).length + size - 1) / size + 1 := by
    rw [List.length_drop]
    by_cases fits : items.length ≤ size
    · rw [Nat.sub_eq_zero_of_le fits, Nat.zero_add,
        Nat.div_eq_of_lt (Nat.sub_lt positive Nat.one_pos)]
      exact Nat.div_eq_of_lt_le (by omega) (by omega)
    rw [← Nat.add_div_right _ positive]
    congr 1
    omega
  unfold batches
  rw [count, List.range_succ_eq_map, List.map_cons, List.map_map]
  congr 1
  refine List.map_congr_left fun k _ => ?_
  show (items.drop (size * (k + 1))).take size = ((items.drop size).drop (size * k)).take size
  rw [List.drop_drop, Nat.mul_succ, Nat.add_comm]

/-- **Together** the batches are the list. -/
theorem flatten_batches (positive : 0 < size) (items : List α) :
    (batches size items).flatten = items := by
  induction long : items.length using Nat.strongRecOn generalizing items with
  | ind n ih =>
    by_cases isNil : items = []
    · rw [isNil, batches_nil]
      rfl
    have shorter : (items.drop size).length < n := by
      have := List.length_pos_of_ne_nil isNil
      rw [List.length_drop]
      omega
    rw [batches_cons positive isNil, List.flatten_cons, ih _ shorter _ rfl, List.take_append_drop]

theorem batches_of_length_le {items : List α} (positive : 0 < size) (nonempty : items ≠ [])
    (fits : items.length ≤ size) : batches size items = [items] := by
  rw [batches_cons positive nonempty, List.take_of_length_le fits, List.drop_of_length_le fits,
    batches_nil]

/-- A batch has at most as many items as its size, and they are some of the list in its order. -/
theorem length_sublist_of_mem_batches {items batch : List α} (isBatch : batch ∈ batches size items) :
    batch.length ≤ size ∧ List.Sublist batch items := by
  obtain ⟨k, -, rfl⟩ := List.mem_map.1 isBatch
  exact ⟨List.length_take_le _ _, (List.take_sublist _ _).trans (List.drop_sublist _ _)⟩

/-- No batch is empty. -/
theorem ne_nil_of_mem_batches {items batch : List α} (positive : 0 < size)
    (isBatch : batch ∈ batches size items) : batch ≠ [] := by
  obtain ⟨k, inside, rfl⟩ := List.mem_map.1 isBatch
  rw [List.mem_range, Nat.lt_div_iff_mul_lt positive] at inside
  have left : 0 < ((items.drop (size * k)).take size).length := by
    rw [List.length_take, List.length_drop, Nat.mul_comm]
    omega
  exact List.ne_nil_of_length_pos left

/-- **What is read list by list** is what is read at once, in another order. -/
theorem flatMap_filter_perm [DecidableEq β] {key : α → β} {members : List α}
    {lists : List (List β)} (nodup : lists.flatten.Nodup)
    (inside : ∀ member ∈ members, key member ∈ lists.flatten) :
    (lists.flatMap fun list => members.filter fun member => key member ∈ list).Perm members := by
  induction lists generalizing members with
  | nil =>
    have isNil : members = [] := List.eq_nil_iff_forall_not_mem.2 fun member isMember => by
      have := inside member isMember
      simp at this
    rw [isNil]
    exact .refl _
  | cons list lists ih =>
    rw [List.flatten_cons, List.nodup_append] at nodup
    obtain ⟨-, nodup, apart⟩ := nodup
    rw [List.flatMap_cons]
    have others : (lists.flatMap fun list => members.filter fun member => key member ∈ list) =
        lists.flatMap fun other =>
          (members.filter fun member => !decide (key member ∈ list)).filter fun member =>
            key member ∈ other := by
      refine List.flatMap_congr fun other isOther => ?_
      rw [List.filter_filter]
      refine List.filter_congr fun member _ => ?_
      by_cases here : key member ∈ other
      · have elsewhere : key member ∉ list := fun there =>
          apart _ there _ (List.mem_flatten.2 ⟨other, isOther, here⟩) rfl
        simp [here, elsewhere]
      · simp [here]
    rw [others]
    refine List.Perm.trans (List.Perm.append_left _ (ih nodup fun member isMember => ?_))
      (List.filter_append_perm _ _)
    obtain ⟨isMember, elsewhere⟩ := List.mem_filter.1 isMember
    have here := inside member isMember
    rw [List.flatten_cons, List.mem_append] at here
    rcases here with here | here
    · simp [here] at elsewhere
    · exact here

end Fdai.Sequences
