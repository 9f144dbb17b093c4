import Mathlib.Data.List.Sort
import Fdai.Sequences.Keyed

/-!
# Differences of two lists by a derived key

Two lists of items, each item with a name of its own, are compared through two dictionaries under a
key that is derived from the name. The comparison lists the keys of what came, of what went and of
what is in both and differs.

* `Difference`, `difference` — the three lists of keys.
* `Exact` — every name is told apart: its key is listed where its fate says, and each list has one
  entry for each of its names.
* `exact_iff` — **exactly when it is exact**: names that share a key all stayed, and no two items of
  one name that differ are taken for equal.
-/

namespace Fdai.Sequences

variable {α ι κ : Type}

/-- What a comparison of two dictionaries lists. -/
structure Difference (κ : Type) where
  added : List κ
  removed : List κ
  changed : List κ

def Difference.listed (d : Difference κ) : List κ := d.added ++ d.removed ++ d.changed

theorem Difference.mem_listed {d : Difference κ} {k : κ} :
    k ∈ d.listed ↔ k ∈ d.added ∨ k ∈ d.removed ∨ k ∈ d.changed := by
  show k ∈ d.added ++ d.removed ++ d.changed ↔ _
  rw [List.mem_append, List.mem_append, or_assoc]

/-- The keys of a dictionary, in order. -/
def sortedKeys [LinearOrder κ] (keys : List κ) : List κ := keys.insertionSort (· ≤ ·)

theorem mem_sortedKeys [LinearOrder κ] {keys : List κ} {k : κ} : k ∈ sortedKeys keys ↔ k ∈ keys :=
  List.mem_insertionSort _

section

variable [DecidableEq κ] [LinearOrder κ] {key : α → κ}

/-- **The comparison** of two dictionaries. -/
def difference (differ : α → α → Bool) (before after : Keyed key) : Difference κ where
  added := sortedKeys ((after.values.map key).filter fun k => k ∉ before.values.map key)
  removed := sortedKeys ((before.values.map key).filter fun k => k ∉ after.values.map key)
  changed := sortedKeys ((before.values.map key).filter fun k =>
    match before.get k, after.get k with
    | some a, some b => differ a b
    | _, _ => false)

variable {differ : α → α → Bool} {before after : Keyed key} {k : κ}

theorem mem_added : k ∈ (difference differ before after).added ↔
    k ∈ after.values.map key ∧ k ∉ before.values.map key := by
  show k ∈ sortedKeys _ ↔ _
  rw [mem_sortedKeys, List.mem_filter, decide_eq_true_iff]

theorem mem_removed : k ∈ (difference differ before after).removed ↔
    k ∈ before.values.map key ∧ k ∉ after.values.map key := by
  show k ∈ sortedKeys _ ↔ _
  rw [mem_sortedKeys, List.mem_filter, decide_eq_true_iff]

theorem mem_changed : k ∈ (difference differ before after).changed ↔
    ∃ a b, before.get k = some a ∧ after.get k = some b ∧ differ a b = true := by
  show k ∈ sortedKeys _ ↔ _
  rw [mem_sortedKeys, List.mem_filter]
  constructor
  · rintro ⟨-, differs⟩
    split at differs
    · rename_i a b isBefore isAfter
      exact ⟨a, b, isBefore, isAfter, differs⟩
    · cases differs
  · rintro ⟨a, b, isBefore, isAfter, differs⟩
    refine ⟨?_, by rw [isBefore, isAfter]; exact differs⟩
    rw [← Keyed.key_of_get isBefore]
    exact List.mem_map_of_mem (Keyed.mem_of_get isBefore)

end

section

variable (name : α → ι) (code : ι → κ) (before after : List α)

/-- A name of either list. -/
def Named (i : ι) : Prop := i ∈ before.map name ∨ i ∈ after.map name

/-- A name that only the later list has. -/
def Came (i : ι) : Prop := i ∈ after.map name ∧ i ∉ before.map name

/-- A name that only the earlier list has. -/
def Went (i : ι) : Prop := i ∈ before.map name ∧ i ∉ after.map name

/-- A name of both lists whose items are not the same. -/
def Changed (i : ι) : Prop := ∃ a ∈ before, ∃ b ∈ after, name a = i ∧ name b = i ∧ a ≠ b

/-- A name of both lists whose item is the same. -/
def Stayed (i : ι) : Prop := ∃ a ∈ before, a ∈ after ∧ name a = i

/-- **An exact difference** tells all names apart. -/
structure Exact (d : Difference κ) : Prop where
  /-- What came is listed as added. -/
  added : ∀ i, Named name before after i → (code i ∈ d.added ↔ Came name before after i)
  /-- What went is listed as removed. -/
  removed : ∀ i, Named name before after i → (code i ∈ d.removed ↔ Went name before after i)
  /-- What changed is listed as changed. -/
  changed : ∀ i, Named name before after i → (code i ∈ d.changed ↔ Changed name before after i)
  /-- An entry is the entry of one name. -/
  own : ∀ i j, Named name before after i → Named name before after j → code i = code j →
    code i ∈ d.listed → i = j

end

section

variable {name : α → ι} {code : ι → κ} {before after : List α} {i : ι}

/-- **A name came, went, changed or stayed.** -/
theorem fate (named : Named name before after i) : Came name before after i ∨
    Went name before after i ∨ Changed name before after i ∨ Stayed name before after i := by
  by_cases isBefore : i ∈ before.map name
  · by_cases isAfter : i ∈ after.map name
    · obtain ⟨a, aBefore, aName⟩ := List.mem_map.1 isBefore
      obtain ⟨b, bAfter, bName⟩ := List.mem_map.1 isAfter
      by_cases same : a = b
      · exact .inr (.inr (.inr ⟨a, aBefore, same ▸ bAfter, aName⟩))
      · exact .inr (.inr (.inl ⟨a, aBefore, b, bAfter, aName, bName, same⟩))
    · exact .inr (.inl ⟨isBefore, isAfter⟩)
  · exact .inl ⟨named.resolve_left isBefore, isBefore⟩

theorem Stayed.isBefore (stayed : Stayed name before after i) : i ∈ before.map name := by
  obtain ⟨a, aBefore, -, aName⟩ := stayed
  exact List.mem_map.2 ⟨a, aBefore, aName⟩

theorem Stayed.isAfter (stayed : Stayed name before after i) : i ∈ after.map name := by
  obtain ⟨a, -, aAfter, aName⟩ := stayed
  exact List.mem_map.2 ⟨a, aAfter, aName⟩

theorem Stayed.not_changed (uniqueBefore : (before.map name).Nodup)
    (uniqueAfter : (after.map name).Nodup) (stayed : Stayed name before after i) :
    ¬ Changed name before after i := by
  rintro ⟨a, aBefore, b, bAfter, aName, bName, differ⟩
  obtain ⟨c, cBefore, cAfter, cName⟩ := stayed
  have first : a = c := List.inj_on_of_nodup_map uniqueBefore aBefore cBefore (aName.trans cName.symm)
  have second : b = c := List.inj_on_of_nodup_map uniqueAfter bAfter cAfter (bName.trans cName.symm)
  exact differ (first.trans second.symm)

theorem Exact.listed {d : Difference κ} (exact_ : Exact name code before after d)
    (named : Named name before after i) : code i ∈ d.listed ↔
      Came name before after i ∨ Went name before after i ∨ Changed name before after i := by
  rw [Difference.mem_listed, exact_.added i named, exact_.removed i named, exact_.changed i named]

end

/-! ## Exactness -/

section

variable [DecidableEq κ] {name : α → ι} {code : ι → κ} {items : List α} {k : κ} {a : α}

/-- The item that a dictionary keeps of a list in the order of its names: of those with its key, it
has the last name. -/
theorem last_of_get [LinearOrder ι] (ordered : items.Pairwise (name · < name ·))
    (found : (Keyed.ofList (fun item => code (name item)) items).get k = some a) :
    a ∈ items ∧ code (name a) = k ∧ ∀ b ∈ items, code (name b) = k → name b ≤ name a := by
  rw [Keyed.get_ofList] at found
  have isItem : a ∈ items := List.mem_reverse.1 (List.mem_of_find?_eq_some found)
  obtain ⟨isKey, later, earlier, split, none⟩ := List.find?_eq_some_iff_append.1 found
  refine ⟨isItem, of_decide_eq_true isKey, ?_⟩
  intro b bItem bKey
  have bReversed : b ∈ later ++ a :: earlier := split ▸ List.mem_reverse.2 bItem
  have descending : (later ++ a :: earlier).Pairwise (name · > name ·) := by
    rw [← split]
    exact List.pairwise_reverse.2 ordered
  rcases List.mem_append.1 bReversed with isLater | rest
  · have notKey := none b isLater
    simp [bKey] at notKey
  rcases List.mem_cons.1 rest with rfl | isEarlier
  · exact le_refl _
  · exact ((List.pairwise_cons.1 (List.pairwise_append.1 descending).2.1).1 b isEarlier).le

/-- The dictionary keeps an item that no other item shares its key with. -/
theorem get_of_own (isItem : a ∈ items) (own : ∀ b ∈ items, code (name b) = code (name a) → b = a) :
    (Keyed.ofList (fun item => code (name item)) items).get (code (name a)) = some a := by
  rw [Keyed.get_ofList]
  cases found : items.reverse.find? fun item => decide (code (name item) = code (name a)) with
  | none =>
    have missed := List.find?_eq_none.1 found a (List.mem_reverse.2 isItem)
    simp at missed
  | some b =>
    have bItem : b ∈ items := List.mem_reverse.1 (List.mem_of_find?_eq_some found)
    have bKey := List.find?_some found
    rw [own b bItem (of_decide_eq_true bKey)]

theorem mem_keys_iff : k ∈ (Keyed.ofList (fun item => code (name item)) items).values.map
        (fun item => code (name item)) ↔ ∃ i ∈ items.map name, code i = k := by
  rw [Keyed.mem_keys_ofList]
  simp

end

theorem unique_of_ordered [LinearOrder ι] {name : α → ι} {items : List α}
    (ordered : items.Pairwise (name · < name ·)) :
    (items.map name).Nodup := by
  refine List.Pairwise.imp (fun before => ne_of_lt before) ?_
  exact List.pairwise_map.2 ordered

/-- Names that share a key stayed as they were. -/
def CollidedStayed (name : α → ι) (code : ι → κ) (before after : List α) : Prop :=
  ∀ i j, Named name before after i → Named name before after j → i ≠ j → code i = code j →
    Stayed name before after i

section

variable [DecidableEq κ] {name : α → ι} {code : ι → κ} {before after : List α}

/-- Where names that share a key stayed, both dictionaries keep the items of a name that changed. -/
theorem changed_kept {a b : α} (collided : CollidedStayed name code before after)
    (uniqueBefore : (before.map name).Nodup) (uniqueAfter : (after.map name).Nodup)
    (aBefore : a ∈ before) (bAfter : b ∈ after) (sameName : name a = name b) (differ_ : a ≠ b) :
    (Keyed.ofList (fun item => code (name item)) before).get (code (name a)) = some a ∧
      (Keyed.ofList (fun item => code (name item)) after).get (code (name a)) = some b := by
  have named : Named name before after (name a) := .inl (List.mem_map_of_mem aBefore)
  have changed : Changed name before after (name a) :=
    ⟨a, aBefore, b, bAfter, rfl, sameName.symm, differ_⟩
  have alone : ∀ j, Named name before after j → code j = code (name a) → j = name a := by
    intro j jNamed shared
    by_contra apart
    have stayed := collided (name a) j named jNamed (Ne.symm apart) shared.symm
    exact stayed.not_changed uniqueBefore uniqueAfter changed
  constructor
  · apply get_of_own aBefore
    intro c cBefore shared
    have cNamed : Named name before after (name c) := .inl (List.mem_map_of_mem cBefore)
    exact List.inj_on_of_nodup_map uniqueBefore cBefore aBefore (alone (name c) cNamed shared)
  · rw [sameName]
    apply get_of_own bAfter
    intro c cAfter shared
    have cNamed : Named name before after (name c) := .inr (List.mem_map_of_mem cAfter)
    exact List.inj_on_of_nodup_map uniqueAfter cAfter bAfter
      ((alone (name c) cNamed (shared.trans (congrArg code sameName.symm))).trans sameName)

end

section

variable [DecidableEq κ] [LinearOrder κ] {name : α → ι} {code : ι → κ} {differ : α → α → Bool}
variable {before after : List α}

/-- The comparison of two lists by the keys of their names. -/
abbrev keyDifference (name : α → ι) (code : ι → κ) (differ : α → α → Bool) (before after : List α) :
    Difference κ :=
  difference differ (Keyed.ofList (fun item => code (name item)) before)
    (Keyed.ofList (fun item => code (name item)) after)

theorem added_of_collided (collided : CollidedStayed name code before after) (i : ι)
    (named : Named name before after i) :
    code i ∈ (keyDifference name code differ before after).added ↔ Came name before after i := by
  rw [mem_added, mem_keys_iff, mem_keys_iff]
  constructor
  · rintro ⟨-, absent⟩
    have notBefore : i ∉ before.map name := fun isBefore => absent ⟨i, isBefore, rfl⟩
    exact ⟨named.resolve_left notBefore, notBefore⟩
  · rintro ⟨isAfter, notBefore⟩
    refine ⟨⟨i, isAfter, rfl⟩, ?_⟩
    rintro ⟨j, jBefore, shared⟩
    have apart : i ≠ j := fun same => notBefore (same ▸ jBefore)
    exact notBefore (collided i j named (.inl jBefore) apart shared.symm).isBefore

theorem removed_of_collided (collided : CollidedStayed name code before after) (i : ι)
    (named : Named name before after i) :
    code i ∈ (keyDifference name code differ before after).removed ↔ Went name before after i := by
  rw [mem_removed, mem_keys_iff, mem_keys_iff]
  constructor
  · rintro ⟨-, absent⟩
    have notAfter : i ∉ after.map name := fun isAfter => absent ⟨i, isAfter, rfl⟩
    exact ⟨named.resolve_right notAfter, notAfter⟩
  · rintro ⟨isBefore, notAfter⟩
    refine ⟨⟨i, isBefore, rfl⟩, ?_⟩
    rintro ⟨j, jAfter, shared⟩
    have apart : i ≠ j := fun same => notAfter (same ▸ jAfter)
    exact notAfter (collided i j named (.inr jAfter) apart shared.symm).isAfter

/-- Where names that share a key stayed and equality is faithful, what changed is listed as
changed. -/
theorem changed_of_collided [LinearOrder ι] (orderedBefore : before.Pairwise (name · < name ·))
    (orderedAfter : after.Pairwise (name · < name ·))
    (reflexive : ∀ a ∈ before, a ∈ after → differ a a = false)
    (collided : CollidedStayed name code before after)
    (faithful : ∀ a ∈ before, ∀ b ∈ after, name a = name b → differ a b = false → a = b) (i : ι)
    (named : Named name before after i) :
    code i ∈ (keyDifference name code differ before after).changed ↔
      Changed name before after i := by
  rw [mem_changed]
  constructor
  · rintro ⟨a, b, isBefore, isAfter, differs⟩
    obtain ⟨aBefore, aKey, aLast⟩ := last_of_get orderedBefore isBefore
    obtain ⟨bAfter, bKey, bLast⟩ := last_of_get orderedAfter isAfter
    have aNamed : Named name before after (name a) := .inl (List.mem_map_of_mem aBefore)
    have bNamed : Named name before after (name b) := .inr (List.mem_map_of_mem bAfter)
    -- both dictionaries keep the item of the same name: the last of those with the key
    have sameName : name a = name b := by
      by_contra apart
      have shared : code (name a) = code (name b) := aKey.trans bKey.symm
      obtain ⟨a', a'After, a'Name⟩ :=
        List.mem_map.1 (collided _ _ aNamed bNamed apart shared).isAfter
      obtain ⟨b', b'Before, b'Name⟩ :=
        List.mem_map.1 (collided _ _ bNamed aNamed (Ne.symm apart) shared.symm).isBefore
      have below : name a ≤ name b := by
        rw [← a'Name]
        exact bLast a' a'After (by rw [a'Name, aKey])
      have above : name b ≤ name a := by
        rw [← b'Name]
        exact aLast b' b'Before (by rw [b'Name, bKey])
      exact apart (le_antisymm below above)
    have differ_ : a ≠ b := by
      rintro rfl
      rw [reflexive a aBefore bAfter] at differs
      cases differs
    by_cases same : name a = i
    · exact ⟨a, aBefore, b, bAfter, same, sameName.symm.trans same, differ_⟩
    have stayed := collided _ _ aNamed named same aKey
    have changed : Changed name before after (name a) :=
      ⟨a, aBefore, b, bAfter, rfl, sameName.symm, differ_⟩
    exact absurd changed (stayed.not_changed (unique_of_ordered orderedBefore)
      (unique_of_ordered orderedAfter))
  · rintro changed
    obtain ⟨a, aBefore, b, bAfter, rfl, sameName, differ_⟩ := changed
    have keptBefore := changed_kept collided (unique_of_ordered orderedBefore)
      (unique_of_ordered orderedAfter) aBefore bAfter sameName.symm differ_
    refine ⟨a, b, keptBefore.1, keptBefore.2, ?_⟩
    cases differs : differ a b with
    | true => rfl
    | false => exact absurd (faithful a aBefore b bAfter sameName.symm differs) differ_

theorem named_of_listed {k : κ} (listed : k ∈ (keyDifference name code differ before after).listed) :
    ∃ i, Named name before after i ∧ code i = k := by
  rcases Difference.mem_listed.1 listed with added | removed | changed
  · obtain ⟨i, isAfter, isKey⟩ := mem_keys_iff.1 (mem_added.1 added).1
    exact ⟨i, .inr isAfter, isKey⟩
  · obtain ⟨i, isBefore, isKey⟩ := mem_keys_iff.1 (mem_removed.1 removed).1
    exact ⟨i, .inl isBefore, isKey⟩
  · obtain ⟨a, -, isBefore, -, -⟩ := mem_changed.1 changed
    have stored : k ∈ (Keyed.ofList (fun item => code (name item)) before).values.map
        (fun item => code (name item)) := by
      rw [← Keyed.key_of_get isBefore]
      exact List.mem_map_of_mem (Keyed.mem_of_get isBefore)
    obtain ⟨i, isBefore, isKey⟩ := mem_keys_iff.1 stored
    exact ⟨i, .inl isBefore, isKey⟩

/-- **Nothing is listed** by an exact comparison exactly if the lists have the same items. -/
theorem Exact.nothing_listed (uniqueBefore : (before.map name).Nodup)
    (uniqueAfter : (after.map name).Nodup)
    (exact_ : Exact name code before after (keyDifference name code differ before after)) :
    (keyDifference name code differ before after).listed = [] ↔ ∀ a, a ∈ before ↔ a ∈ after := by
  constructor
  · intro nothing
    have stayed : ∀ i, Named name before after i → Stayed name before after i := by
      intro i named
      have unlisted : ¬ code i ∈ (keyDifference name code differ before after).listed := by
        rw [nothing]
        exact List.not_mem_nil
      rw [exact_.listed named] at unlisted
      rcases fate named with came | went | changed | stayed
      · exact absurd (.inl came) unlisted
      · exact absurd (.inr (.inl went)) unlisted
      · exact absurd (.inr (.inr changed)) unlisted
      · exact stayed
    intro a
    constructor
    · intro aBefore
      obtain ⟨c, cBefore, cAfter, same⟩ := stayed (name a) (.inl (List.mem_map_of_mem aBefore))
      rwa [List.inj_on_of_nodup_map uniqueBefore aBefore cBefore same.symm]
    · intro aAfter
      obtain ⟨c, cBefore, cAfter, same⟩ := stayed (name a) (.inr (List.mem_map_of_mem aAfter))
      rwa [List.inj_on_of_nodup_map uniqueAfter aAfter cAfter same.symm]
  · intro same
    have names : ∀ i, i ∈ before.map name ↔ i ∈ after.map name := by
      intro i
      simp only [List.mem_map, same]
    refine List.eq_nil_iff_forall_not_mem.2 fun k listed => ?_
    obtain ⟨i, named, rfl⟩ := named_of_listed listed
    rcases (exact_.listed named).1 listed with came | went | changed
    · exact came.2 ((names i).2 came.1)
    · exact went.2 ((names i).1 went.1)
    · obtain ⟨a, aBefore, b, bAfter, aName, bName, differ_⟩ := changed
      have bBefore : b ∈ before := (same b).2 bAfter
      exact differ_ (List.inj_on_of_nodup_map uniqueBefore aBefore bBefore (aName.trans bName.symm))

/-- **Exactly when the comparison is exact.** Both lists are in the order of their names, and an
item does not differ from itself: then all names are told apart if and only if names that share a
key stayed as they were, and no two items of one name are taken for equal unless they are. -/
theorem exact_iff [LinearOrder ι] (orderedBefore : before.Pairwise (name · < name ·))
    (orderedAfter : after.Pairwise (name · < name ·))
    (reflexive : ∀ a ∈ before, a ∈ after → differ a a = false) :
    Exact name code before after (keyDifference name code differ before after) ↔
      CollidedStayed name code before after ∧
      ∀ a ∈ before, ∀ b ∈ after, name a = name b → differ a b = false → a = b := by
  have uniqueBefore := unique_of_ordered orderedBefore
  have uniqueAfter := unique_of_ordered orderedAfter
  constructor
  · intro exact_
    have collided : CollidedStayed name code before after := by
      intro i j iNamed jNamed apart shared
      -- an entry of `i` would be an entry of `j` as well
      have unlisted := fun listed => apart (exact_.own i j iNamed jNamed shared listed)
      rw [exact_.listed iNamed] at unlisted
      rcases fate iNamed with came | went | changed | stayed
      · exact absurd (.inl came) unlisted
      · exact absurd (.inr (.inl went)) unlisted
      · exact absurd (.inr (.inr changed)) unlisted
      · exact stayed
    refine ⟨collided, ?_⟩
    intro a aBefore b bAfter sameName undiffering
    by_contra differ_
    have named : Named name before after (name a) := .inl (List.mem_map_of_mem aBefore)
    have changed : Changed name before after (name a) :=
      ⟨a, aBefore, b, bAfter, rfl, sameName.symm, differ_⟩
    obtain ⟨keptBefore, keptAfter⟩ :=
      changed_kept collided uniqueBefore uniqueAfter aBefore bAfter sameName differ_
    have listed := (exact_.changed (name a) named).2 changed
    obtain ⟨a', b', isBefore, isAfter, differs⟩ := mem_changed.1 listed
    rw [keptBefore] at isBefore
    rw [keptAfter] at isAfter
    obtain rfl := Option.some.inj isBefore
    obtain rfl := Option.some.inj isAfter
    rw [undiffering] at differs
    cases differs
  · rintro ⟨collided, faithful⟩
    have added : ∀ i, Named name before after i →
        (code i ∈ (keyDifference name code differ before after).added ↔ Came name before after i) :=
      added_of_collided collided
    have removed : ∀ i, Named name before after i →
        (code i ∈ (keyDifference name code differ before after).removed ↔ Went name before after i) :=
      removed_of_collided collided
    have changed := changed_of_collided orderedBefore orderedAfter reflexive collided faithful
    refine ⟨added, removed, changed, ?_⟩
    intro i j iNamed jNamed shared listed
    by_contra apart
    have stayed := collided i j iNamed jNamed apart shared
    rw [Difference.mem_listed, added i iNamed, removed i iNamed, changed i iNamed] at listed
    rcases listed with came | went | changed
    · exact came.2 stayed.isBefore
    · exact went.2 stayed.isAfter
    · exact stayed.not_changed uniqueBefore uniqueAfter changed

end

end Fdai.Sequences
