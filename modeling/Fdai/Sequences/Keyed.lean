import Mathlib.Data.List.Nodup
import Mathlib.Data.List.Perm.Subperm
import Mathlib.Data.List.Induction

/-!
# Ordered dictionaries

A dictionary whose values know their own keys, in the order in which the keys were first
stored: replacing a value leaves it where it was.

* `Keyed` — the values; two of them never have the same key.
* `get`, `put`, `filter`, `erase` — look a key up; store a value; keep the values with a
  property; forget a key.
* `get_put` — what a lookup finds once a value is stored.
* `ofList`, `get_ofList` — the dictionary of a list: of the values of one key, the last is kept.
* `mapValues` — every value changed, under its key; `get_mapValues`, `mapValues_put`.
-/

namespace Fdai.Sequences

variable {α κ : Type} {key : α → κ}

/-- The values of a dictionary, in the order their keys came. -/
structure Keyed (key : α → κ) where
  values : List α
  /-- A key has at most one value. -/
  nodup : (values.map key).Nodup

namespace Keyed

@[ext] theorem ext {d d' : Keyed key} (same : d.values = d'.values) : d = d' := by
  cases d
  cases d'
  cases same
  rfl

/-- Nothing is stored yet. -/
def empty : Keyed key := ⟨[], List.nodup_nil⟩

variable [DecidableEq κ]

instance [DecidableEq α] : DecidableEq (Keyed key) := fun _ _ =>
  decidable_of_iff _ Keyed.ext_iff.symm

/-- The value of a key. -/
def get (d : Keyed key) (k : κ) : Option α := d.values.find? fun value => key value = k

/-- Put a value where the value of the same key is. -/
def replace (key : α → κ) (new value : α) : α := if key value = key new then new else value

theorem key_replace (new value : α) : key (replace key new value) = key value := by
  unfold replace
  split
  · rename_i same
    exact same.symm
  · rfl

/-- Store a value under its key. -/
def put (d : Keyed key) (new : α) : Keyed key :=
  if stored : key new ∈ d.values.map key then
    { values := d.values.map (replace key new)
      nodup := by
        have keys : (d.values.map (replace key new)).map key = d.values.map key := by
          simp [Function.comp_def, key_replace]
        rw [keys]
        exact d.nodup }
  else
    { values := d.values ++ [new]
      nodup := by
        rw [List.map_append, List.map_singleton, List.nodup_append]
        refine ⟨d.nodup, List.nodup_singleton _, fun k isStored k' isNew => ?_⟩
        rintro rfl
        rw [List.mem_singleton.1 isNew] at isStored
        exact stored isStored }

/-- The values with a property. -/
def filter (d : Keyed key) (p : α → Bool) : Keyed key where
  values := d.values.filter p
  nodup := d.nodup.sublist (List.filter_sublist.map key)

/-- Forget a key. -/
def erase (d : Keyed key) (k : κ) : Keyed key := d.filter fun value => key value ≠ k

variable {d : Keyed key} {k : κ} {new value : α}

@[simp] theorem get_empty : (empty : Keyed key).get k = none := rfl

theorem key_of_get (found : d.get k = some value) : key value = k := by
  simpa using List.find?_some found

theorem mem_of_get (found : d.get k = some value) : value ∈ d.values :=
  List.mem_of_find?_eq_some found

/-- A value is found under its key. -/
theorem get_of_mem (stored : value ∈ d.values) : d.get (key value) = some value := by
  cases found : d.get (key value) with
  | none =>
    have fresh := List.find?_eq_none.1 found value stored
    simp at fresh
  | some other =>
    have same := key_of_get found
    rw [List.inj_on_of_nodup_map d.nodup (mem_of_get found) stored same]

theorem get_filter {p : α → Bool} (found : d.get k = some value) (kept : p value = true) :
    (d.filter p).get k = some value := by
  have same : key value = k := key_of_get found
  rw [← same]
  exact get_of_mem (List.mem_filter.2 ⟨mem_of_get found, kept⟩)

/-- **Forget, then look up.** -/
theorem get_erase {k' : κ} : (d.erase k').get k = if k = k' then none else d.get k := by
  change (d.values.filter _).find? _ = _
  rw [List.find?_filter]
  by_cases same : k = k'
  · rw [if_pos same, List.find?_eq_none]
    intro value _
    simp [same]
  rw [if_neg same, get]
  congr 1
  funext value
  by_cases here : key value = k
  · simp [here, same]
  · simp [here]

theorem mem_erase {k' : κ} : value ∈ (d.erase k').values ↔ value ∈ d.values ∧ key value ≠ k' := by
  change value ∈ d.values.filter _ ↔ _
  simp

theorem get_eq_none : d.get k = none ↔ k ∉ d.values.map key := by
  simp [get]

theorem find?_replace (values : List α) :
    (values.map (replace key new)).find? (fun value => key value = k) =
      if k = key new ∧ k ∈ values.map key then some new
      else values.find? fun value => key value = k := by
  induction values with
  | nil => simp
  | cons value rest ih =>
    rw [List.map_cons, List.find?_cons, List.find?_cons]
    by_cases here : key value = k
    · subst here
      by_cases same : key value = key new
      · simp [replace, same]
      · simp [replace, same]
    · simp [key_replace, here, Ne.symm here, ih]

/-- **Store, then look up.** -/
theorem get_put : (d.put new).get k = if k = key new then some new else d.get k := by
  unfold put
  split
  · rename_i stored
    change (d.values.map (replace key new)).find? _ = _
    rw [find?_replace]
    by_cases same : k = key new
    · rw [same]
      simp [stored]
    · simp [same, get]
  · rename_i fresh
    change (d.values ++ [new]).find? _ = _
    rw [List.find?_append]
    by_cases same : k = key new
    · subst same
      have absent : d.values.find? (fun value => key value = key new) = none :=
        get_eq_none.2 fresh
      simp [absent]
    have skipped : [new].find? (fun value => key value = k) = none := by
      simp [Ne.symm same]
    rw [skipped]
    simp [same, get]

@[simp] theorem get_put_self : (d.put new).get (key new) = some new := by
  simp [get_put]

theorem get_put_ne (apart : k ≠ key new) : (d.put new).get k = d.get k := by
  simp [get_put, apart]

theorem values_put_of_mem (stored : key new ∈ d.values.map key) :
    (d.put new).values = d.values.map (replace key new) := by
  unfold put
  rw [dif_pos stored]

theorem values_put_of_notMem (fresh : key new ∉ d.values.map key) :
    (d.put new).values = d.values ++ [new] := by
  unfold put
  rw [dif_neg fresh]

/-- What is stored is stored again. -/
theorem put_of_get (found : d.get k = some value) : d.put value = d := by
  have stored : key value ∈ d.values.map key := List.mem_map_of_mem (mem_of_get found)
  apply ext
  rw [values_put_of_mem stored]
  refine (List.map_congr_left fun other isOther => ?_).trans (List.map_id _)
  unfold replace
  split
  · rename_i same
    exact (List.inj_on_of_nodup_map d.nodup isOther (mem_of_get found) same).symm
  · rfl

theorem mem_put (stored : value ∈ (d.put new).values) : value = new ∨ value ∈ d.values := by
  have found : (d.put new).get (key value) = some value := get_of_mem stored
  rw [get_put] at found
  split at found
  · exact .inl (Option.some.inj found).symm
  · exact .inr (mem_of_get found)

/-- The values of a list, stored one after the other. -/
def ofList (key : α → κ) (values : List α) : Keyed key := values.foldl put empty

theorem ofList_append_singleton (values : List α) (last : α) :
    ofList key (values ++ [last]) = (ofList key values).put last := by
  unfold ofList
  rw [List.foldl_append]
  rfl

/-- **The last value** of a key is the one that is kept. -/
theorem get_ofList (values : List α) :
    (ofList key values).get k = values.reverse.find? fun value => key value = k := by
  induction values using List.reverseRecOn with
  | nil => rfl
  | append_singleton values last ih =>
    rw [ofList_append_singleton, get_put, List.reverse_append, ih]
    by_cases here : key last = k
    · simp [here]
    · simp [here, Ne.symm here]

/-- The keys of a dictionary are those of the list. -/
theorem mem_keys_ofList {values : List α} :
    k ∈ (ofList key values).values.map key ↔ k ∈ values.map key := by
  rw [← not_iff_not, ← get_eq_none, get_ofList, List.find?_eq_none]
  simp

theorem mem_of_mem_ofList {values : List α} (stored : value ∈ (ofList key values).values) :
    value ∈ values := by
  have found := get_of_mem stored
  rw [get_ofList] at found
  exact List.mem_reverse.1 (List.mem_of_find?_eq_some found)

theorem length_ofList_le (values : List α) : (ofList key values).values.length ≤ values.length := by
  have inside : (ofList key values).values.map key ⊆ values.map key :=
    fun k => mem_keys_ofList.1
  have shorter := (List.subperm_of_subset (ofList key values).nodup inside).length_le
  rw [List.length_map, List.length_map] at shorter
  exact shorter

/-- Where nothing is replaced, everything is kept. -/
theorem mem_ofList_of_length {values : List α}
    (asLong : (ofList key values).values.length = values.length) (stored : value ∈ values) :
    value ∈ (ofList key values).values := by
  have inside : (ofList key values).values.map key ⊆ values.map key :=
    fun k => mem_keys_ofList.1
  have long : (values.map key).length ≤ ((ofList key values).values.map key).length := by
    rw [List.length_map, List.length_map]
    exact Nat.le_of_eq asLong.symm
  have perm := (List.subperm_of_subset (ofList key values).nodup inside).perm_of_length_le long
  have nodup : (values.map key).Nodup := perm.nodup_iff.1 (ofList key values).nodup
  have isKey : key value ∈ (ofList key values).values.map key :=
    mem_keys_ofList.2 (List.mem_map_of_mem stored)
  obtain ⟨other, isOther, same⟩ := List.mem_map.1 isKey
  rw [← List.inj_on_of_nodup_map nodup (mem_of_mem_ofList isOther) stored same]
  exact isOther

def mapValues (d : Keyed key) (change : α → α) (same : ∀ value, key (change value) = key value) :
    Keyed key where
  values := d.values.map change
  nodup := by
    rw [List.map_map, show key ∘ change = key from funext same]
    exact d.nodup

variable {change : α → α} {same : ∀ value, key (change value) = key value}

/-- **Change every value, then look up.** -/
theorem get_mapValues : (d.mapValues change same).get k = (d.get k).map change := by
  show (d.values.map change).find? _ = _
  rw [List.find?_map]
  simp only [Function.comp_def, same]
  rfl

/-- A value is changed before or after it is stored. -/
theorem mapValues_put :
    (d.put new).mapValues change same = (d.mapValues change same).put (change new) := by
  have keys : (d.mapValues change same).values.map key = d.values.map key := by
    show (d.values.map change).map key = _
    rw [List.map_map, show key ∘ change = key from funext same]
  apply ext
  show (d.put new).values.map change = _
  by_cases stored : key new ∈ d.values.map key
  · have stored' : key (change new) ∈ (d.mapValues change same).values.map key := by
      rw [keys, same]
      exact stored
    rw [values_put_of_mem stored, values_put_of_mem stored']
    show _ = (d.values.map change).map _
    rw [List.map_map, List.map_map]
    refine List.map_congr_left fun value _ => ?_
    simp only [Function.comp_apply, replace, same]
    split
    · rfl
    · rfl
  · have fresh' : key (change new) ∉ (d.mapValues change same).values.map key := by
      rw [keys, same]
      exact stored
    rw [values_put_of_notMem stored, values_put_of_notMem fresh', List.map_append]
    rfl

end Keyed

end Fdai.Sequences
