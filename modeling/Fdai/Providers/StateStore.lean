import Mathlib.Data.List.Sigma

/-!
# Keyed records with revisions

A store of records, each under a key that fixes its type. A record carries a revision;
`compareAndSet` writes only where the stored revision is the expected one, and
`writeIfAbsent` only where nothing is stored. Rows are kept in the order they were last
written, and `deleteBeyond` deletes the oldest.

The types of keys and records are parameters.
-/

namespace Fdai.Providers

variable {Key : Type} {Record : Key → Type}

/-- The rows of a store, least recently written first. -/
structure StateStore (Key : Type) (Record : Key → Type) where
  rows : List (Sigma Record)
  /-- A key has at most one record. -/
  nodup : rows.NodupKeys

/-- No record is stored yet. -/
def StateStore.empty : StateStore Key Record := ⟨[], List.nodupKeys_nil⟩

namespace StateStore

variable [DecidableEq Key] (s : StateStore Key Record)

def read (key : Key) : Option (Record key) := s.rows.dlookup key

/-- Store a record as the most recently written row. -/
def write (key : Key) (value : Record key) : StateStore Key Record :=
  { rows := s.rows.kerase key ++ [⟨key, value⟩]
    nodup := (List.perm_nodupKeys (List.perm_append_singleton _ _)).2
      (List.nodupKeys_cons.2 ⟨List.notMem_keys_kerase key s.nodup, s.nodup.kerase key⟩) }

def writeIfAbsent (key : Key) (value : Record key) : Bool × StateStore Key Record :=
  match s.read key with
  | some _ => (false, s)
  | none => (true, s.write key value)

/-- Write only where the stored record has the expected revision. -/
def compareAndSet (revision : (key : Key) → Record key → ℕ) (key : Key)
    (value : Record key) (expectedRevision : ℕ) : Bool × StateStore Key Record :=
  match s.read key with
  | none => (false, s)
  | some stored =>
    if revision key stored = expectedRevision then (true, s.write key value) else (false, s)

/-- Some keys, but for those of the newest rows among them. -/
def beyond (p : Key → Bool) (retainNewest : ℕ) : List Key :=
  ((s.rows.map Sigma.fst).filter p).reverse.drop retainNewest

/-- Delete the oldest rows of some keys, past so many. -/
def deleteBeyond (p : Key → Bool) (retainNewest : ℕ) : StateStore Key Record :=
  { rows := s.rows.filter fun row => row.1 ∉ s.beyond p retainNewest
    nodup := s.nodup.sublist List.filter_sublist }

variable {s}

@[simp] theorem read_write_self (key : Key) (value : Record key) :
    (s.write key value).read key = some value := by
  have gone : (s.rows.kerase key).dlookup key = none :=
    List.dlookup_eq_none.2 (List.notMem_keys_kerase key s.nodup)
  simp [read, write, List.dlookup_append, gone]

@[simp] theorem read_write_ne {key other : Key} (value : Record key) (apart : other ≠ key) :
    (s.write key value).read other = s.read other := by
  simp [read, write, List.dlookup_append, List.dlookup_kerase_ne apart, apart]

/-- **What a conditional first write can do.** -/
theorem writeIfAbsent_cases {key : Key} {value : Record key} {answer : Bool}
    {s' : StateStore Key Record} (h : s.writeIfAbsent key value = (answer, s')) :
    (answer = false ∧ s' = s ∧ (s.read key).isSome) ∨
      (answer = true ∧ s.read key = none ∧ s' = s.write key value) := by
  unfold writeIfAbsent at h
  cases stored : s.read key with
  | none =>
    rw [stored] at h
    obtain ⟨rfl, rfl⟩ := Prod.mk.inj h
    exact .inr ⟨rfl, rfl, rfl⟩
  | some _ =>
    rw [stored] at h
    obtain ⟨rfl, rfl⟩ := Prod.mk.inj h
    exact .inl ⟨rfl, rfl, rfl⟩

/-- **What a compare-and-set can do.** -/
theorem compareAndSet_cases {revision : (key : Key) → Record key → ℕ} {key : Key}
    {value : Record key} {expected : ℕ} {answer : Bool} {s' : StateStore Key Record}
    (h : s.compareAndSet revision key value expected = (answer, s')) :
    (answer = false ∧ s' = s) ∨ (answer = true ∧ s' = s.write key value ∧
        ∃ stored, s.read key = some stored ∧ revision key stored = expected) := by
  unfold compareAndSet at h
  rcases found : s.read key with _ | stored
  · rw [found] at h
    obtain ⟨rfl, rfl⟩ := Prod.mk.inj h
    exact .inl ⟨rfl, rfl⟩
  simp only [found] at h
  split at h
  · rename_i current
    obtain ⟨rfl, rfl⟩ := Prod.mk.inj h
    exact .inr ⟨rfl, rfl, stored, rfl, current⟩
  · obtain ⟨rfl, rfl⟩ := Prod.mk.inj h
    exact .inl ⟨rfl, rfl⟩

/-- **Deleting** rows leaves the others as they are. -/
theorem read_deleteBeyond {p : Key → Bool} {retainNewest : ℕ} (key : Key) :
    (s.deleteBeyond p retainNewest).read key =
      if key ∈ s.beyond p retainNewest then none else s.read key := by
  unfold deleteBeyond read
  dsimp only
  generalize s.beyond p retainNewest = gone
  induction s.rows with
  | nil => simp
  | cons row rest ih =>
    obtain ⟨other, value⟩ := row
    by_cases isGone : other ∈ gone
    · rw [List.filter_cons_of_neg (by simpa using isGone), ih]
      by_cases same : key = other
      · subst same
        rw [if_pos isGone, if_pos isGone]
      · rw [List.dlookup_cons_ne _ _ same]
    rw [List.filter_cons_of_pos (by simpa using isGone)]
    by_cases same : key = other
    · subst same
      rw [List.dlookup_cons_eq, List.dlookup_cons_eq, if_neg isGone]
    · rw [List.dlookup_cons_ne _ _ same, List.dlookup_cons_ne _ _ same, ih]

end StateStore

end Fdai.Providers
