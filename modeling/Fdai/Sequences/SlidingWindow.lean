import Mathlib.Data.List.Count
import Mathlib.Data.List.TakeWhile
import Mathlib.Tactic.Linarith

/-!
# Sliding windows

Counts of items by their time stamps, where the stamps live in an ordered group.

* `later` — how many items have a stamp after a cutoff.
* `evict`, `later_evict` — dropping items at the front that are not after a cutoff does not
  change what is after a later one.
* `hidden` — items that are gone, but stand behind one that is not; `length_dropWhile_eq` — they count
  as long as they are not dropped.
* `Within` — every half-open window of a width holds at most so many items;
  `Within.append` — another item keeps to the bound if fewer are late enough to share a
  window with it.
-/

namespace Fdai.Sequences

variable {α T : Type*} [LinearOrder T]

/-- The number of items with a stamp after the cutoff. -/
def later (stamp : α → T) (items : List α) (cutoff : T) : ℕ :=
  items.countP fun item => cutoff < stamp item

section

variable {stamp : α → T} {items : List α} {item : α} {cutoff cutoff' : T}

@[simp] theorem later_nil : later stamp [] cutoff = 0 := rfl

theorem later_cons : later stamp (item :: items) cutoff =
    later stamp items cutoff + if cutoff < stamp item then 1 else 0 := by
  simp [later, List.countP_cons]

@[simp] theorem later_append {items' : List α} : later stamp (items ++ items') cutoff =
    later stamp items cutoff + later stamp items' cutoff := List.countP_append

theorem later_le_length : later stamp items cutoff ≤ items.length := List.countP_le_length

theorem later_perm {items' : List α} (perm : items.Perm items') :
    later stamp items cutoff = later stamp items' cutoff := perm.countP_eq _

/-- Later stamps let more items through. -/
theorem later_mono_stamp {stamp' : α → T} (stamps : ∀ item ∈ items, stamp item ≤ stamp' item) :
    later stamp items cutoff ≤ later stamp' items cutoff :=
  List.countP_mono_left fun item isItem after => by
    simp only [decide_eq_true_eq] at after ⊢
    exact lt_of_lt_of_le after (stamps item isItem)

/-- Items with one property or another are no more than those with the one and those with the
other. -/
theorem countP_le_add {p q r : α → Bool} {items : List α}
    (cases : ∀ item ∈ items, p item = true → q item = true ∨ r item = true) :
    items.countP p ≤ items.countP q + items.countP r := by
  induction items with
  | nil => exact Nat.zero_le _
  | cons item rest ih =>
    have rest := ih fun other isOther => cases other (List.mem_cons_of_mem _ isOther)
    have head := cases item List.mem_cons_self
    simp only [List.countP_cons]
    split
    · rename_i holds
      rcases head holds with one | other
      · simp only [one, if_true]
        omega
      · simp only [other, if_true]
        omega
    · omega

/-- Drop the items at the front that are not after the cutoff. -/
def evict (items : List T) (cutoff : T) : List T := items.dropWhile fun item => item ≤ cutoff

/-- **Eviction** loses nothing that counts after a later cutoff. -/
theorem later_evict {stamp : T → T} {items : List T} (early : ∀ item, stamp item ≤ item)
    (cutoffs : cutoff ≤ cutoff') : later stamp (evict items cutoff) cutoff' =
      later stamp items cutoff' := by
  induction items with
  | nil => rfl
  | cons item rest ih =>
    unfold evict
    rw [List.dropWhile_cons]
    split
    · rename_i expired
      have notLater : ¬ cutoff' < stamp item :=
        not_lt.2 ((early item).trans ((of_decide_eq_true expired).trans cutoffs))
      rw [later_cons, if_neg notLater, Nat.add_zero]
      exact ih
    · rfl

end

/-- How many items are gone, but stand behind one that is not. -/
def hidden (gone : α → Bool) (items : List α) : ℕ := (items.dropWhile gone).countP gone

/-- **What is left** once the first items that are gone are dropped. -/
theorem length_dropWhile_eq (gone : α → Bool) (items : List α) :
    (items.dropWhile gone).length = (items.countP fun item => !gone item) + hidden gone items := by
  have dropped : (items.takeWhile gone).countP (fun item => !gone item) = 0 := by
    rw [List.countP_eq_zero]
    intro item isItem
    rw [List.mem_takeWhile_imp isItem]
    exact Bool.false_ne_true
  have split := congrArg (List.countP fun item => !gone item) (List.takeWhile_append_dropWhile
    (p := gone) (l := items))
  rw [List.countP_append, dropped, Nat.zero_add] at split
  unfold hidden
  rw [← split, List.length_eq_countP_add_countP gone, Nat.add_comm]
  simp

/-- Dropping less before makes no difference. -/
theorem dropWhile_dropWhile_of_imp {less gone : α → Bool} (imp : ∀ item, less item = true →
    gone item = true) (items : List α) :
    (items.dropWhile less).dropWhile gone = items.dropWhile gone := by
  induction items with
  | nil => rfl
  | cons item rest ih =>
    rw [List.dropWhile_cons]
    split
    · rename_i isLess
      rw [ih, List.dropWhile_cons_of_pos (imp item isLess)]
    · rfl

theorem mem_dropWhile_of_not {gone : α → Bool} {items : List α} {item : α} (isItem : item ∈ items)
    (stays : gone item = false) : item ∈ items.dropWhile gone := by
  rw [← List.takeWhile_append_dropWhile (p := gone) (l := items), List.mem_append] at isItem
  refine isItem.resolve_left fun dropped => ?_
  rw [List.mem_takeWhile_imp dropped] at stays
  cases stays

variable [AddCommGroup T]

/-- Every window `[start, start + width)` holds at most `limit` items. -/
def Within (stamp : α → T) (width : T) (limit : ℕ) (items : List α) : Prop :=
  ∀ start, items.countP (fun item => start ≤ stamp item ∧ stamp item < start + width) ≤ limit

variable {stamp : α → T} {width : T} {limit : ℕ} {items : List α}

theorem Within.nil : Within stamp width limit [] := fun _ => Nat.zero_le _

/-- Fewer items keep to the bound. -/
theorem Within.sublist {items' : List α} (within : Within stamp width limit items)
    (fewer : items'.Sublist items) : Within stamp width limit items' :=
  fun start => (fewer.countP_le).trans (within start)

/-- **One more item.** -/
theorem Within.append [IsOrderedAddMonoid T] {item : α} (within : Within stamp width limit items)
    (room : later stamp items (stamp item - width) < limit) :
    Within stamp width limit (items ++ [item]) := by
  intro start
  rw [List.countP_append, List.countP_singleton]
  split
  · rename_i inside
    have inside := of_decide_eq_true inside
    have fewer : items.countP (fun other => start ≤ stamp other ∧ stamp other < start + width) ≤
        later stamp items (stamp item - width) := by
      refine List.countP_mono_left fun other _ isInside => ?_
      have isInside := of_decide_eq_true isInside
      refine decide_eq_true (lt_of_lt_of_le ?_ isInside.1)
      exact sub_lt_iff_lt_add.2 inside.2
    omega
  · exact within start

end Fdai.Sequences
