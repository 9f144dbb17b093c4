import Fdai.Sequences.Keyed

/-!
# Replacing the first value of a key

A list whose values know their keys, with no promise that two of them differ: a new value takes the
place of the first value with its key.

* `replaceFirst` — the replacement.
* `foldl_replaceFirst` — where the keys do differ, replacing some values one after the other changes
  exactly these.
* `FirstHas`, `filter_foldl_replaceFirst` — where the first value of each key has a property, so that
  no other one is replaced, the values with the property can be taken before or after.
-/

namespace Fdai.Sequences

variable {α κ : Type} [DecidableEq κ] {key : α → κ}

/-- Put a value where the first value of its key is. -/
def replaceFirst (key : α → κ) (new : α) : List α → List α
  | [] => []
  | value :: values =>
    if key value = key new then new :: values else value :: replaceFirst key new values

theorem replaceFirst_eq_map {values : List α} (nodup : (values.map key).Nodup) (new : α) :
    replaceFirst key new values = values.map (Keyed.replace key new) := by
  induction values with
  | nil => rfl
  | cons value values ih =>
    rw [List.map_cons, List.nodup_cons] at nodup
    unfold replaceFirst
    by_cases same : key value = key new
    · have others : values.map (Keyed.replace key new) = values := by
        refine List.map_congr_left (g := id) ?_ |>.trans (List.map_id _)
        intro other inside
        have differs : key other ≠ key new := fun isNew =>
          nodup.1 (by rw [same, ← isNew]; exact List.mem_map_of_mem inside)
        exact if_neg differs
      rw [if_pos same, List.map_cons, others]
      simp [Keyed.replace, same]
    · rw [if_neg same, ih nodup.2, List.map_cons]
      simp [Keyed.replace, same]

/-- **Replacing some values, one after the other.** -/
theorem foldl_replaceFirst [DecidableEq α] {values : List α} (nodup : (values.map key).Nodup)
    {change : α → α} (same : ∀ value, key (change value) = key value) {items : List α}
    (inside : ∀ item ∈ items, item ∈ values) (once : items.Nodup) :
    (items.map change).foldl (fun values new => replaceFirst key new values) values =
      values.map fun value => if value ∈ items then change value else value := by
  induction items generalizing values with
  | nil => simp
  | cons item items ih =>
    have isIn := inside item List.mem_cons_self
    have apart : item ∉ items := (List.nodup_cons.1 once).1
    have differ : ∀ other ∈ values, key other = key item → other = item := fun other isOther =>
      fun sameKey => List.inj_on_of_nodup_map nodup isOther isIn sameKey
    have first : replaceFirst key (change item) values =
        values.map fun value => if value = item then change item else value := by
      rw [replaceFirst_eq_map nodup]
      refine List.map_congr_left ?_
      intro value isValue
      unfold Keyed.replace
      rw [same]
      by_cases isItem : value = item
      · rw [if_pos isItem, if_pos (congrArg key isItem)]
      · rw [if_neg isItem, if_neg fun sameKey => isItem (differ value isValue sameKey)]
    have keys : (values.map fun value => if value = item then change item else value).map key =
        values.map key := by
      rw [List.map_map]
      refine List.map_congr_left ?_
      intro value _
      by_cases isItem : value = item
      · simp [isItem, same]
      · simp [isItem]
    rw [List.map_cons, List.foldl_cons, first, ih (by rw [keys]; exact nodup) ?_ (List.nodup_cons.1
      once).2, List.map_map]
    · refine List.map_congr_left ?_
      intro value _
      by_cases isItem : value = item
      · subst isItem
        -- The new value has the key of the old one, so it is none of the later ones.
        have later : change value ∉ items := by
          intro isLater
          have isOld := differ _ (inside _ (List.mem_cons_of_mem _ isLater)) (same value)
          rw [isOld] at isLater
          exact apart isLater
        simp [later]
      · simp [isItem]
    · intro other isOther
      refine List.mem_map.2 ⟨other, inside other (List.mem_cons_of_mem _ isOther), if_neg ?_⟩
      rintro rfl
      exact apart isOther

section

variable {p : α → Bool} {values items : List α} {new : α} {k : κ}

theorem mem_replaceFirst {value : α} (inside : value ∈ replaceFirst key new values) :
    value = new ∨ value ∈ values := by
  induction values with
  | nil => cases inside
  | cons first values ih =>
    unfold replaceFirst at inside
    split at inside
    · exact (List.mem_cons.1 inside).imp_right (List.mem_cons_of_mem _)
    rcases List.mem_cons.1 inside with rfl | inside
    · exact .inr List.mem_cons_self
    · exact (ih inside).imp_right (List.mem_cons_of_mem _)

def FirstHas (p : α → Bool) (key : α → κ) (values : List α) (k : κ) : Prop :=
  ∀ first, values.find? (fun value => key value = k) = some first → p first = true

theorem find?_replaceFirst : (replaceFirst key new values).find? (fun value => key value = k) =
      (values.find? fun value => key value = k).map
        fun first => if k = key new then new else first := by
  induction values with
  | nil => rfl
  | cons first values ih =>
    unfold replaceFirst
    by_cases here : key first = key new
    · rw [if_pos here, List.find?_cons, List.find?_cons, here]
      by_cases isNew : key new = k
      · simp [isNew]
      · simp [isNew, Ne.symm isNew]
    rw [if_neg here, List.find?_cons, List.find?_cons, ih]
    by_cases isFirst : key first = k
    · simp [isFirst, isFirst ▸ here]
    · simp [isFirst]

theorem FirstHas.replaceFirst (has : FirstHas p key values k) (isNew : p new = true) :
    FirstHas p key (replaceFirst key new values) k := by
  intro first found
  rw [find?_replaceFirst] at found
  obtain ⟨old, isOld, rfl⟩ := Option.map_eq_some_iff.1 found
  split
  · exact isNew
  · exact has old isOld

/-- A value with the property takes the place of one. -/
theorem filter_replaceFirst (has : FirstHas p key values (key new)) (isNew : p new = true) :
    (replaceFirst key new values).filter p = replaceFirst key new (values.filter p) := by
  induction values with
  | nil => rfl
  | cons first values ih =>
    by_cases here : key first = key new
    · have isFirst : p first = true := has first (by simp [here])
      simp [Sequences.replaceFirst, here, isNew, isFirst]
    have rest : FirstHas p key values (key new) := by
      intro other found
      exact has other (by simpa [here] using found)
    by_cases isFirst : p first = true
    · simp [Sequences.replaceFirst, here, isFirst, ih rest]
    · simp [Sequences.replaceFirst, here, isFirst, ih rest]

/-- **Values with the property take the places of such values.** -/
theorem filter_foldl_replaceFirst (has : ∀ item ∈ items, FirstHas p key values (key item))
    (areNew : ∀ item ∈ items, p item = true) :
    (items.foldl (fun values new => replaceFirst key new values) values).filter p =
      items.foldl (fun values new => replaceFirst key new values) (values.filter p) := by
  induction items generalizing values with
  | nil => rfl
  | cons item items ih =>
    have isNew := areNew item List.mem_cons_self
    rw [List.foldl_cons, List.foldl_cons, ← filter_replaceFirst (has item List.mem_cons_self) isNew]
    refine ih ?_ fun other isOther => areNew other (List.mem_cons_of_mem _ isOther)
    intro other isOther
    exact (has other (List.mem_cons_of_mem _ isOther)).replaceFirst isNew

/-- What is there after some replacements was there, or is one of the new values. -/
theorem mem_foldl_replaceFirst {value : α}
    (inside : value ∈ items.foldl (fun values new => replaceFirst key new values) values) :
    value ∈ items ∨ value ∈ values := by
  induction items generalizing values with
  | nil => exact .inr inside
  | cons item items ih =>
    rcases ih inside with later | here
    · exact .inl (List.mem_cons_of_mem _ later)
    rcases mem_replaceFirst here with rfl | here
    · exact .inl List.mem_cons_self
    · exact .inr here

end

end Fdai.Sequences
