import Fdai.Sequences.Keyed

/-!
# Snapshots of some keys

A dictionary is changed under some keys and then restored: what was under the keys is put back, and, where
anything was, the order of all keys.

* `KeySnapshot`, `snapshot`, `restore` — what is kept of the keys, and how it is put back.
* `Apart` — two dictionaries differ under some keys only; `Apart.put`, `Apart.erase` — such a change.
-/

namespace Fdai.Sequences.Keyed

variable {α κ : Type} {key : α → κ} [DecidableEq κ]

/-- What is kept of some keys: what was under them, and the order of all keys if anything was. -/
structure KeySnapshot (key : α → κ) where
  keys : List κ
  previous : Keyed key
  order : Option (List κ)

/-- What is under some keys. -/
def snapshot (d : Keyed key) (keys : List κ) : KeySnapshot key :=
  let previous := d.filter fun value => key value ∈ keys
  { keys, previous, order := if previous.values.isEmpty then none else some (d.values.map key) }

/-- Put back what was under a key. -/
def restoreKey (previous d : Keyed key) (k : κ) : Keyed key :=
  match previous.get k with
  | some value => d.put value
  | none => d.erase k

/-- Put back what was under the keys, and their order. -/
def restore (snapshot : KeySnapshot key) (d : Keyed key) : Keyed key :=
  let d := snapshot.keys.foldl (restoreKey snapshot.previous) d
  match snapshot.order with
  | none => d
  | some order => ofList key (order.filterMap d.get)

/-- **Apart from some keys**, two dictionaries are the same, in the same order. -/
def Apart (keys : List κ) (d d' : Keyed key) : Prop :=
  d'.values.filter (fun value => key value ∉ keys) = d.values.filter fun value => key value ∉ keys

variable {keys : List κ} {d d' : Keyed key}

theorem Apart.refl (keys : List κ) (d : Keyed key) : Apart keys d d := rfl

/-- A key that is forgotten. -/
theorem Apart.erase (apart : Apart keys d d') {k : κ} (inside : k ∈ keys) :
    Apart keys d (d'.erase k) := by
  refine Eq.trans ?_ apart
  show (d'.values.filter fun value => key value ≠ k).filter _ = _
  rw [List.filter_filter]
  refine List.filter_congr fun value _ => ?_
  by_cases same : key value = k
  · simp [same, inside]
  · simp [same]

/-- A value that is stored. -/
theorem Apart.put (apart : Apart keys d d') {new : α} (inside : key new ∈ keys) :
    Apart keys d (d'.put new) := by
  refine Eq.trans ?_ apart
  by_cases stored : key new ∈ d'.values.map key
  · rw [values_put_of_mem stored, List.filter_map]
    have same : ((fun value => decide (key value ∉ keys)) ∘ replace key new) =
        fun value => decide (key value ∉ keys) := by
      funext value
      show decide (key (replace key new value) ∉ keys) = _
      rw [show key (replace key new value) = key value from key_replace new value]
    rw [same]
    refine (List.map_congr_left fun value isValue => ?_).trans (List.map_id _)
    have outside : key value ∉ keys := by simpa using (List.mem_filter.1 isValue).2
    have elsewhere : key value ≠ key new := fun same => outside (by rwa [same])
    exact if_neg elsewhere
  · rw [values_put_of_notMem stored, List.filter_append, List.filter_singleton]
    simp [inside]

/-- What is under another key. -/
theorem Apart.get (apart : Apart keys d d') {k : κ} (outside : k ∉ keys) : d'.get k = d.get k := by
  have found (e : Keyed key) :
      e.get k = (e.values.filter fun value => key value ∉ keys).find? fun value => key value = k := by
    rw [List.find?_filter]
    unfold Keyed.get
    congr 1
    funext value
    by_cases here : key value = k
    · simp [here, outside]
    · simp [here]
  rw [found d', found d, apart]

/-- What is put back under one key. -/
theorem get_restoreKey {previous : Keyed key} {k k' : κ} :
    (restoreKey previous d k').get k = if k = k' then previous.get k' else d.get k := by
  unfold restoreKey
  split
  · rename_i value found
    rw [get_put, key_of_get found, found]
  · rename_i missing
    rw [get_erase, missing]

/-- **What is put back** under the keys. -/
theorem get_restoreKeys {previous : Keyed key} (ks : List κ) {k : κ} :
    (ks.foldl (restoreKey previous) d).get k = if k ∈ ks then previous.get k else d.get k := by
  induction ks generalizing d with
  | nil => rfl
  | cons first rest ih =>
    rw [List.foldl_cons, ih, get_restoreKey]
    by_cases same : k = first
    · subst same
      simp
    · simp [same]

/-- Putting back changes nothing elsewhere. -/
theorem Apart.restoreKeys {previous : Keyed key} (apart : Apart keys d d') {ks : List κ}
    (inside : ∀ k ∈ ks, k ∈ keys) : Apart keys d (ks.foldl (restoreKey previous) d') := by
  induction ks generalizing d' with
  | nil => exact apart
  | cons first rest ih =>
    rw [List.foldl_cons]
    refine ih ?_ fun k isKey => inside k (List.mem_cons_of_mem _ isKey)
    have isInside := inside first List.mem_cons_self
    unfold restoreKey
    split
    · rename_i value found
      exact apart.put (key_of_get found ▸ isInside)
    · exact apart.erase isInside

/-- The dictionary of the values of a dictionary. -/
theorem ofList_values (d : Keyed key) : ofList key d.values = d := by
  have ofNodup (values : List α) (nodup : (values.map key).Nodup) :
      (ofList key values).values = values := by
    induction values using List.reverseRecOn with
    | nil => rfl
    | append_singleton values last ih =>
      rw [List.map_append, List.map_singleton, List.nodup_append] at nodup
      obtain ⟨nodup, -, apart⟩ := nodup
      have fresh : key last ∉ (ofList key values).values.map key := by
        rw [ih nodup]
        exact fun stored => apart _ stored _ (List.mem_singleton_self _) rfl
      rw [ofList_append_singleton, values_put_of_notMem fresh, ih nodup]
  exact Keyed.ext (ofNodup d.values d.nodup)

/-- What is under the keys of a dictionary, in their order. -/
theorem filterMap_get_keys (d : Keyed key) : (d.values.map key).filterMap d.get = d.values := by
  rw [List.filterMap_map]
  refine (List.filterMap_congr fun value isValue => ?_).trans List.filterMap_some
  exact get_of_mem isValue

/-- **What was changed under the keys only** is restored, in its order. -/
theorem restore_of_apart (apart : Apart keys d d') : restore (snapshot d keys) d' = d := by
  -- Under the keys is what was there; elsewhere nothing has changed.
  have same : (keys.foldl (restoreKey (d.filter fun value => key value ∈ keys)) d').get = d.get := by
    funext k
    rw [get_restoreKeys]
    split
    · rename_i inside
      cases found : d.get k with
      | some value =>
        exact get_filter found (by rw [key_of_get found]; exact decide_eq_true inside)
      | none =>
        rw [get_eq_none] at found ⊢
        intro stored
        obtain ⟨value, isValue, isKey⟩ := List.mem_map.1 stored
        exact found (List.mem_map.2 ⟨value, (List.mem_filter.1 isValue).1, isKey⟩)
    · rename_i outside
      exact apart.get outside
  unfold restore snapshot
  dsimp only
  split
  · rename_i noOrder
    split at noOrder
    · rename_i isEmpty
      have noneInside (value : α) (isValue : value ∈ d.values) : key value ∉ keys := by
        have isNil : d.values.filter (fun value => key value ∈ keys) = [] :=
          List.isEmpty_iff.1 isEmpty
        simpa using List.filter_eq_nil_iff.1 isNil value isValue
      have apart : Apart keys d
          (keys.foldl (restoreKey (d.filter fun value => key value ∈ keys)) d') :=
        apart.restoreKeys fun _ isKey => isKey
      generalize keys.foldl (restoreKey (d.filter fun value => key value ∈ keys)) d' = restored at *
      have stays (value : α) (isValue : value ∈ restored.values) : key value ∉ keys := by
        have found := get_of_mem isValue
        rw [same] at found
        exact noneInside value (mem_of_get found)
      apply Keyed.ext
      calc restored.values = restored.values.filter (fun value => key value ∉ keys) :=
            (List.filter_eq_self.2 fun value isValue => by simpa using stays value isValue).symm
        _ = d.values.filter (fun value => key value ∉ keys) := apart
        _ = d.values := List.filter_eq_self.2 fun value isValue => by simpa using noneInside value isValue
    · cases noOrder
  · rename_i order isOrder
    split at isOrder
    · cases isOrder
    · obtain rfl := Option.some.inj isOrder
      rw [same, filterMap_get_keys, ofList_values]

end Fdai.Sequences.Keyed
