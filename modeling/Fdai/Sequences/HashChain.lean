import Mathlib.Data.List.Induction
import Mathlib.Data.List.Nodup

/-!
# Hash chains

Entries that each name their position and the hash of the entry before them.

* `Linking` — what an entry says of its place; entries and hashes are of any type.
* `Chained`, `headOf` — a list of entries that are linked one to the next, and the hash that
  the next one has to name.
* `Chained.drop` — the end of a chain is a chain from a later place.
* `Chained.previous_nodup` — a chain does not fork: no two entries follow the same one.
* `ancestry`, `Chained.ancestry_eq` — following the links back from an entry gives the chain
  that leads to it.
-/

namespace Fdai.Sequences

variable {α η : Type*}

/-- What an entry says of its place in a chain, and the hash it is known by. -/
structure Linking (α η : Type*) where
  position : α → ℕ
  previous : α → η
  hash : α → η

namespace Linking

variable (L : Linking α η)

/-- The hash of the last entry, or the one a chain starts from. -/
def headOf (base : η) (entries : List α) : η := (entries.getLast?.map L.hash).getD base

/-- Entries that follow each other, from a position and a hash on. -/
def Chained : ℕ → η → List α → Prop
  | _, _, [] => True
  | start, base, entry :: rest =>
    L.position entry = start ∧ L.previous entry = base ∧ Chained (start + 1) (L.hash entry) rest

variable {L} {start : ℕ} {base : η} {entries later : List α} {entry : α}

@[simp] theorem chained_nil : L.Chained start base [] := trivial

theorem chained_cons : L.Chained start base (entry :: entries) ↔
    L.position entry = start ∧ L.previous entry = base ∧
      L.Chained (start + 1) (L.hash entry) entries := Iff.rfl

@[simp] theorem headOf_nil : L.headOf base [] = base := rfl

@[simp] theorem headOf_concat : L.headOf base (entries ++ [entry]) = L.hash entry := by
  simp [headOf]

theorem headOf_cons : L.headOf base (entry :: entries) = L.headOf (L.hash entry) entries := by
  unfold headOf
  rw [List.getLast?_cons]
  cases entries.getLast? with
  | none | some _ => rfl

theorem headOf_append : L.headOf base (entries ++ later) =
    L.headOf (L.headOf base entries) later := by
  induction entries generalizing base with
  | nil => rfl
  | cons entry rest ih => rw [List.cons_append, headOf_cons, headOf_cons, ih]

/-- **A chain in two parts.** -/
theorem chained_append : L.Chained start base (entries ++ later) ↔ L.Chained start base entries ∧
      L.Chained (start + entries.length) (L.headOf base entries) later := by
  induction entries generalizing start base with
  | nil => simp
  | cons entry rest ih =>
    rw [List.cons_append, chained_cons, chained_cons, headOf_cons, ih, List.length_cons,
      Nat.add_right_comm start 1, Nat.add_assoc start]
    tauto

/-- **One more entry.** -/
theorem chained_concat : L.Chained start base (entries ++ [entry]) ↔
    L.Chained start base entries ∧ L.position entry = start + entries.length ∧
      L.previous entry = L.headOf base entries := by
  rw [chained_append, chained_cons]
  simp

theorem Chained.of_prefix (chained : L.Chained start base later)
    (isPrefix : entries <+: later) : L.Chained start base entries := by
  obtain ⟨rest, rfl⟩ := isPrefix
  exact (chained_append.1 chained).1

/-- **The end of a chain** is a chain. -/
theorem Chained.drop (chained : L.Chained start base entries) {count : ℕ}
    (within : count ≤ entries.length) :
    L.Chained (start + count) (L.headOf base (entries.take count)) (entries.drop count) := by
  rw [← List.take_append_drop count entries, chained_append] at chained
  have length : (entries.take count).length = count := by
    rw [List.length_take]
    omega
  rw [length] at chained
  exact chained.2

/-- **Positions** are counted from the start. -/
theorem Chained.position_eq (chained : L.Chained start base entries) {i : ℕ}
    (isEntry : entries[i]? = some entry) : L.position entry = start + i := by
  induction entries generalizing start base i with
  | nil => cases isEntry
  | cons first rest ih =>
    obtain ⟨position, -, chained⟩ := chained_cons.1 chained
    cases i with
    | zero =>
      obtain rfl := Option.some.inj isEntry
      exact position
    | succ i =>
      rw [ih chained isEntry]
      omega

/-- An entry names the hash of what comes before it. -/
theorem Chained.previous_eq (chained : L.Chained start base entries) {i : ℕ}
    (isEntry : entries[i]? = some entry) :
    L.previous entry = L.headOf base (entries.take i) := by
  induction entries generalizing start base i with
  | nil => cases isEntry
  | cons first rest ih =>
    obtain ⟨-, previous, chained⟩ := chained_cons.1 chained
    cases i with
    | zero =>
      obtain rfl := Option.some.inj isEntry
      exact previous
    | succ i =>
      rw [List.take_succ_cons, headOf_cons]
      exact ih chained isEntry

theorem Chained.positions_nodup (chained : L.Chained start base entries) :
    (entries.map L.position).Nodup := by
  rw [List.nodup_iff_getElem?_ne_getElem?]
  intro i j before within same
  rw [List.length_map] at within
  rw [List.getElem?_map, List.getElem?_map] at same
  have first : entries[i]? = some entries[i] := List.getElem?_eq_getElem (by omega)
  have second : entries[j]? = some entries[j] := List.getElem?_eq_getElem within
  rw [first, second] at same
  have positions : L.position entries[i] = L.position entries[j] := Option.some.inj same
  rw [chained.position_eq first, chained.position_eq second] at positions
  omega

/-- **No duplicates.** A hash that binds the position is the hash of one entry. -/
theorem Chained.hashes_nodup (chained : L.Chained start base entries)
    (binds : ∀ entry ∈ entries, ∀ other ∈ entries, L.hash entry = L.hash other →
      L.position entry = L.position other) : (entries.map L.hash).Nodup := by
  have positions := chained.positions_nodup
  refine List.Nodup.map_on (fun entry isEntry other isOther same => ?_)
    (List.Nodup.of_map _ positions)
  exact List.inj_on_of_nodup_map positions isEntry isOther (binds entry isEntry other isOther same)

/-- The hashes that the entries name: the base, and all hashes but the last. -/
theorem Chained.map_previous (chained : L.Chained start base entries) :
    entries.map L.previous = (base :: entries.map L.hash).take entries.length := by
  induction entries generalizing start base with
  | nil => rfl
  | cons entry rest ih =>
    obtain ⟨-, previous, chained⟩ := chained_cons.1 chained
    rw [List.map_cons, List.length_cons, List.take_succ_cons, previous, ih chained, List.map_cons]

/-- **No fork.** No two entries follow the same one. -/
theorem Chained.previous_nodup (chained : L.Chained start base entries)
    (binds : ∀ entry ∈ entries, ∀ other ∈ entries, L.hash entry = L.hash other →
      L.position entry = L.position other)
    (isFirst : ∀ entry ∈ entries, L.hash entry ≠ base) : (entries.map L.previous).Nodup := by
  rw [chained.map_previous]
  refine List.Nodup.sublist (List.take_sublist _ _) (List.nodup_cons.2 ⟨?_, ?_⟩)
  · rintro isHash
    obtain ⟨entry, isEntry, same⟩ := List.mem_map.1 isHash
    exact isFirst entry isEntry same
  · exact chained.hashes_nodup binds

/-- **The head fixes the chain**, where a hash binds the hash of the entry before. -/
theorem Chained.map_hash_eq (binds : ∀ a b, L.hash a = L.hash b → L.previous a = L.previous b)
    (fresh : ∀ a, L.hash a ≠ base) (chained : L.Chained start base entries)
    (chained' : L.Chained start base later) (same : L.headOf base entries = L.headOf base later) :
    entries.map L.hash = later.map L.hash := by
  induction entries using List.reverseRecOn generalizing later with
  | nil =>
    rcases later.eq_nil_or_concat' with rfl | ⟨before, last, rfl⟩
    · rfl
    rw [headOf_concat] at same
    exact absurd same.symm (fresh last)
  | append_singleton entries entry ih =>
    obtain ⟨isChained, -, linked⟩ := chained_concat.1 chained
    rcases later.eq_nil_or_concat' with rfl | ⟨before, last, rfl⟩
    · rw [headOf_concat] at same
      exact absurd same (fresh entry)
    obtain ⟨isChained', -, linked'⟩ := chained_concat.1 chained'
    rw [headOf_concat, headOf_concat] at same
    have bound := binds entry last same
    rw [linked, linked'] at bound
    rw [List.map_append, List.map_append, ih isChained isChained' bound, List.map_singleton,
      List.map_singleton, same]

end Linking

/-- The last entries of a list, at most so many. -/
def window (limit : ℕ) (entries : List α) : List α := entries.drop (entries.length - limit)

variable {limit : ℕ} {entries : List α} {entry : α}

theorem length_window (limit : ℕ) (entries : List α) :
    (window limit entries).length = min entries.length limit := by
  unfold window
  rw [List.length_drop]
  omega

theorem window_of_le (few : entries.length ≤ limit) : window limit entries = entries := by
  unfold window
  rw [Nat.sub_eq_zero_of_le few, List.drop_zero]

/-- **One more entry**: the oldest one leaves a window that is full. -/
theorem window_concat (some_kept : 0 < limit) : window limit (entries ++ [entry]) =
    if limit ≤ entries.length then (window limit entries).tail ++ [entry]
    else window limit entries ++ [entry] := by
  unfold window
  rw [List.length_append, List.length_singleton, List.drop_append_of_le_length (by omega)]
  split
  · rw [List.tail_drop]
    congr 2
    omega
  · congr 2
    omega

namespace Linking

variable (L : Linking α η)

/-- The entries that are reached from some entries by so many links back, where `parents` looks
a hash up. -/
def ancestry (parents : η → List α) : ℕ → List α → List α
  | 0, _ => []
  | depth + 1, level =>
    level ++ ancestry parents depth (level.flatMap fun entry => parents (L.previous entry))

variable {L} {start : ℕ} {base : η}

/-- **Following the links** back from the head of a chain gives the end of the chain, newest
first. -/
theorem Chained.ancestry_eq (parents : η → List α) {depth : ℕ}
    (chained : L.Chained start base entries) (within : depth ≤ entries.length)
    (known : ∀ entry ∈ entries, parents (L.hash entry) = [entry]) :
    L.ancestry parents depth (parents (L.headOf base entries)) =
      (window depth entries).reverse := by
  induction depth generalizing entries with
  | zero => simp [ancestry, window]
  | succ depth ih =>
    rcases List.eq_nil_or_concat' entries with rfl | ⟨before, entry, rfl⟩
    · cases within
    obtain ⟨chained, -, previous⟩ := chained_concat.1 chained
    rw [List.length_append, List.length_singleton] at within
    have isKnown : parents (L.hash entry) = [entry] := known entry (by simp)
    have rest := ih chained (by omega) fun other isOther => known other (by simp [isOther])
    rw [headOf_concat, isKnown, ancestry, List.flatMap_singleton, previous, rest]
    unfold window
    rw [List.length_append, List.length_singleton, List.drop_append_of_le_length (by omega),
      List.reverse_append, List.reverse_singleton, List.singleton_append]
    congr 3
    omega

end Linking

end Fdai.Sequences
