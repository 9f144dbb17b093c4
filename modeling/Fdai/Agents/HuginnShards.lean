import Fdai.Agents.HuginnDedup

/-!
# The entries of a shard

What `_decode` asks of a shard, and why every rewrite of it can be read again.

* `FormedEntry`, `Sequenced` — the checks of one entry, and of the sequences of all of them;
  `checkEntries_eq_ok` says that these are the checks of `_decode`.
* `Sequenced.put`, `Sequenced.add`, `Sequenced.filter` — another entry of a key, a new entry,
  fewer entries.
* `Sequenced.evictPublished`, `Sequenced.mergeEntries` — making room, and migration.
* `RoomMade`, `Merges`, `freshEntry_eq_ok` — what eviction, migration and a claim do key by key.
* `SoundShard` — a shard within its capacity; `SoundShard.decode` reads it back.
* `SoundDecoded` — a shard as it was read; `SoundDecoded.put`, `filter`, `claim` and `merge` are
  the ways it is rewritten.
-/

namespace Fdai.Core.HuginnDedup

open Fdai.Sequences

/-! ## Entries -/

/-- What is asked of one entry, its sequence apart. -/
structure FormedEntry (key : String) (entry : DedupEntry) : Prop where
  key : key ≠ ""
  digest : isDigest entry.requestDigest = true
  pending : entry.status = .pending → (entry.ownerToken.isSome ∧ entry.leaseExpiresAt.isSome ∧
    entry.payload.isSome) ∧ (∃ instant, parseTime entry.leaseExpiresAt = .ok instant) ∧
      entry.publishedTopics.Nodup
  published : entry.status = .published → entry.ownerToken = none ∧ entry.leaseExpiresAt = none ∧
    entry.payload = none ∧ entry.changeProjection = none

/-- **Entries whose sequences are unique** and below the next one. -/
structure Sequenced (nextSequence : ℕ) (entries : List (String × DedupEntry)) : Prop where
  formed : ∀ entry ∈ entries, FormedEntry entry.1 entry.2
  unique : (entries.map (·.2.sequence)).Nodup
  positive : ∀ entry ∈ entries, 1 ≤ entry.2.sequence
  below : ∀ entry ∈ entries, entry.2.sequence < nextSequence

theorem publishedTopics_eq_ok {entry : DedupEntry} {topics : List PublicationTopic} :
    publishedTopics entry = .ok topics ↔
      entry.publishedTopics.Nodup ∧ entry.publishedTopics = topics := by
  unfold publishedTopics
  by_cases distinct : entry.publishedTopics.Nodup
  · rw [if_pos distinct]
    constructor
    · intro same
      exact ⟨distinct, Except.ok.inj same⟩
    · intro same
      exact congrArg Except.ok same.2
  · rw [if_neg distinct]
    constructor
    · intro same
      cases same
    · intro same
      exact absurd same.1 distinct

/-- **The checks of an entry.** -/
theorem checkEntry_eq_ok {nextSequence : ℕ} {sequences : List ℕ} {key : String}
    {entry : DedupEntry} : checkEntry nextSequence sequences key entry = .ok () ↔
      FormedEntry key entry ∧ 1 ≤ entry.sequence ∧ entry.sequence ∉ sequences ∧
        entry.sequence < nextSequence := by
  rw [checkEntry, check_bind_eq_ok]
  simp only [validate_cons_eq_ok, validate_nil, and_true, decide_eq_true_eq]
  cases status : entry.status with
  | pending =>
    rw [check_bind_eq_ok, bind_eq_ok]
    simp only [validate_cons_eq_ok, validate_nil, and_true, decide_eq_true_eq]
    constructor
    · rintro ⟨⟨named, digest, positive, fresh, below⟩, held, instant, parsed, topics⟩
      obtain ⟨topics, distinct, -⟩ := bind_eq_ok.1 topics
      refine ⟨⟨named, digest, fun _ => ⟨held, ⟨instant, parsed⟩, ?_⟩, ?_⟩, positive, fresh, below⟩
      · exact (publishedTopics_eq_ok.1 distinct).1
      · intro published
        rw [status] at published
        cases published
    · rintro ⟨formed, positive, fresh, below⟩
      obtain ⟨held, ⟨instant, parsed⟩, distinct⟩ := formed.pending status
      refine ⟨⟨formed.key, formed.digest, positive, fresh, below⟩, held, instant, parsed, ?_⟩
      exact bind_eq_ok.2 ⟨_, publishedTopics_eq_ok.2 ⟨distinct, rfl⟩, rfl⟩
  | published =>
    simp only [validate_cons_eq_ok, validate_nil, and_true, decide_eq_true_eq]
    constructor
    · rintro ⟨⟨named, digest, positive, fresh, below⟩, cleared⟩
      refine ⟨⟨named, digest, ?_, fun _ => cleared⟩, positive, fresh, below⟩
      intro pending
      rw [status] at pending
      cases pending
    · rintro ⟨formed, positive, fresh, below⟩
      exact ⟨⟨formed.key, formed.digest, positive, fresh, below⟩, formed.published status⟩

/-- **The checks of all entries.** -/
theorem checkEntries_eq_ok {nextSequence : ℕ} {entries : List (String × DedupEntry)} :
    ∀ {sequences : List ℕ}, checkEntries nextSequence sequences entries = .ok () ↔
      Sequenced nextSequence entries ∧ ∀ entry ∈ entries, entry.2.sequence ∉ sequences := by
  induction entries with
  | nil =>
    intro sequences
    refine ⟨fun _ => ⟨⟨?_, List.nodup_nil, ?_, ?_⟩, ?_⟩, fun _ => rfl⟩
    all_goals exact fun _ isEntry => absurd isEntry List.not_mem_nil
  | cons first rest ih =>
    intro sequences
    obtain ⟨key, entry⟩ := first
    rw [checkEntries, check_bind_eq_ok, checkEntry_eq_ok, ih]
    constructor
    · rintro ⟨⟨formed, positive, fresh, below⟩, others, apart⟩
      refine ⟨⟨?_, ?_, ?_, ?_⟩, ?_⟩
      · rintro other isEntry
        rcases List.mem_cons.1 isEntry with rfl | isEntry
        · exact formed
        · exact others.formed other isEntry
      · rw [List.map_cons, List.nodup_cons]
        refine ⟨?_, others.unique⟩
        intro again
        obtain ⟨other, isEntry, same⟩ := List.mem_map.1 again
        refine apart other isEntry ?_
        rw [same]
        exact List.mem_cons_self
      · rintro other isEntry
        rcases List.mem_cons.1 isEntry with rfl | isEntry
        · exact positive
        · exact others.positive other isEntry
      · rintro other isEntry
        rcases List.mem_cons.1 isEntry with rfl | isEntry
        · exact below
        · exact others.below other isEntry
      · rintro other isEntry
        rcases List.mem_cons.1 isEntry with rfl | isEntry
        · exact fresh
        · intro known
          exact apart other isEntry (List.mem_cons_of_mem _ known)
    · rintro ⟨all, apart⟩
      obtain ⟨fresh, unique⟩ := List.nodup_cons.1 all.unique
      have here : (key, entry) ∈ (key, entry) :: rest := List.mem_cons_self
      refine ⟨⟨all.formed _ here, all.positive _ here, apart _ here, all.below _ here⟩,
        ⟨?_, unique, ?_, ?_⟩, ?_⟩
      · exact fun other isEntry => all.formed other (List.mem_cons_of_mem _ isEntry)
      · exact fun other isEntry => all.positive other (List.mem_cons_of_mem _ isEntry)
      · exact fun other isEntry => all.below other (List.mem_cons_of_mem _ isEntry)
      · intro other isEntry known
        rcases List.mem_cons.1 known with same | known
        · refine fresh (List.mem_map.2 ⟨other, isEntry, ?_⟩)
          exact same
        · exact apart other (List.mem_cons_of_mem _ isEntry) known

variable {message : String} {sorted : List (String × DedupEntry)} {last : ℕ}

section

variable {nextSequence : ℕ} {entries : DedupEntries} {key : String} {entry : DedupEntry}

theorem sequenced_empty (nextSequence : ℕ) :
    Sequenced nextSequence (Keyed.empty : DedupEntries).values := by
  have none_known : checkEntries nextSequence [] (Keyed.empty : DedupEntries).values = .ok () := rfl
  exact (checkEntries_eq_ok.1 none_known).1

theorem Sequenced.sublist {fewer all : List (String × DedupEntry)}
    (sequenced : Sequenced nextSequence all) (sub : fewer.Sublist all) :
    Sequenced nextSequence fewer where
  formed entry isEntry := sequenced.formed entry (sub.subset isEntry)
  unique := sequenced.unique.sublist (sub.map _)
  positive entry isEntry := sequenced.positive entry (sub.subset isEntry)
  below entry isEntry := sequenced.below entry (sub.subset isEntry)

theorem Sequenced.filter (sequenced : Sequenced nextSequence entries.values)
    (p : String × DedupEntry → Bool) : Sequenced nextSequence (entries.filter p).values :=
  sequenced.sublist List.filter_sublist

variable {found : String × DedupEntry}

theorem mem_keys_of_get (got : entries.get key = some found) : key ∈ entries.values.map Prod.fst :=
  List.mem_map.2 ⟨found, Keyed.mem_of_get got, Keyed.key_of_get got⟩

/-- **Another entry of a key**, of the same sequence. -/
theorem Sequenced.put (sequenced : Sequenced nextSequence entries.values)
    (got : entries.get key = some found)
    (same : entry.sequence = found.2.sequence) (formed : FormedEntry key entry) :
    Sequenced nextSequence (entries.put (key, entry)).values := by
  have stored : Prod.fst (key, entry) ∈ entries.values.map Prod.fst := mem_keys_of_get got
  have sequences : ((entries.put (key, entry)).values.map (·.2.sequence)) =
      entries.values.map (·.2.sequence) := by
    rw [Keyed.values_put_of_mem stored, List.map_map]
    refine List.map_congr_left fun other isEntry => ?_
    show (Keyed.replace Prod.fst (key, entry) other).2.sequence = other.2.sequence
    unfold Keyed.replace
    split
    · rename_i isKey
      have isKey : other.1 = key := isKey
      have isFound : entries.get key = some other := isKey ▸ Keyed.get_of_mem isEntry
      obtain rfl := Option.some.inj (got.symm.trans isFound)
      exact same
    · rfl
  have known {other : String × DedupEntry} (isEntry : other ∈ (entries.put (key, entry)).values) :
      ∃ old ∈ entries.values, old.2.sequence = other.2.sequence := by
    have isSequence : other.2.sequence ∈ entries.values.map (·.2.sequence) := by
      rw [← sequences]
      exact List.mem_map.2 ⟨other, isEntry, rfl⟩
    exact List.mem_map.1 isSequence
  refine ⟨?_, ?_, ?_, ?_⟩
  · intro other isEntry
    rcases Keyed.mem_put isEntry with rfl | isEntry
    · exact formed
    · exact sequenced.formed other isEntry
  · rw [sequences]
    exact sequenced.unique
  · intro other isEntry
    obtain ⟨old, isOld, sameSequence⟩ := known isEntry
    rw [← sameSequence]
    exact sequenced.positive old isOld
  · intro other isEntry
    obtain ⟨old, isOld, sameSequence⟩ := known isEntry
    rw [← sameSequence]
    exact sequenced.below old isOld

theorem notMem_keys_of_get (absent : entries.get key = none) :
    Prod.fst (key, entry) ∉ entries.values.map Prod.fst := Keyed.get_eq_none.1 absent

/-- **A new entry** takes the next sequence. -/
theorem Sequenced.add (sequenced : Sequenced nextSequence entries.values)
    (absent : entries.get key = none) (next : entry.sequence = nextSequence)
    (positive : 1 ≤ nextSequence) (formed : FormedEntry key entry) :
    Sequenced (nextSequence + 1) (entries.put (key, entry)).values := by
  rw [Keyed.values_put_of_notMem (notMem_keys_of_get absent)]
  refine ⟨?_, ?_, ?_, ?_⟩
  · intro other isEntry
    rcases List.mem_append.1 isEntry with isEntry | isNew
    · exact sequenced.formed other isEntry
    · rw [List.mem_singleton.1 isNew]
      exact formed
  · rw [List.map_append, List.nodup_append]
    refine ⟨sequenced.unique, List.nodup_singleton _, ?_⟩
    intro s isOld s' isNew
    rintro rfl
    obtain ⟨old, stored, rfl⟩ := List.mem_map.1 isOld
    have below := sequenced.below old stored
    rw [List.map_singleton, List.mem_singleton] at isNew
    have isNext : old.2.sequence = nextSequence := isNew.trans next
    omega
  · intro other isEntry
    rcases List.mem_append.1 isEntry with isEntry | isNew
    · exact sequenced.positive other isEntry
    · rw [List.mem_singleton.1 isNew, next]
      exact positive
  · intro other isEntry
    rcases List.mem_append.1 isEntry with isEntry | isNew
    · exact (sequenced.below other isEntry).trans (Nat.lt_succ_self _)
    · rw [List.mem_singleton.1 isNew, next]
      exact Nat.lt_succ_self _

theorem length_put (got : entries.get key = some found) :
    (entries.put (key, entry)).values.length = entries.values.length := by
  have stored : Prod.fst (key, entry) ∈ entries.values.map Prod.fst := mem_keys_of_get got
  rw [Keyed.values_put_of_mem stored, List.length_map]

theorem length_add (absent : entries.get key = none) :
    (entries.put (key, entry)).values.length = entries.values.length + 1 := by
  rw [Keyed.values_put_of_notMem (notMem_keys_of_get absent), List.length_append,
    List.length_singleton]

/-- One entry less. -/
theorem length_without (stored : (key, entry) ∈ entries.values) :
    (without entries key).values.length + 1 = entries.values.length := by
  have keys : (entries.values.filter fun other => other.1 ≠ key).length =
      ((entries.values.map Prod.fst).filter (· ≠ key)).length := by
    rw [List.filter_map, List.length_map]
    rfl
  have isKey : key ∈ entries.values.map Prod.fst := List.mem_map.2 ⟨_, stored, rfl⟩
  show (entries.values.filter fun other => other.1 ≠ key).length + 1 = _
  have erased : (entries.values.map Prod.fst).filter (· ≠ key) =
      (entries.values.map Prod.fst).erase key := by
    rw [entries.nodup.erase_eq_filter key]
    refine List.filter_congr fun other _ => ?_
    simp [bne, beq_eq_decide]
  rw [keys, erased, List.length_erase_of_mem isKey, List.length_map]
  have positive : 0 < entries.values.length := List.length_pos_of_mem stored
  omega

/-- **Eviction** keeps the sequences, and drops as many entries as asked. -/
theorem Sequenced.evictPublished {count : ℕ} {kept : DedupEntries}
    (sequenced : Sequenced nextSequence entries.values)
    (evicted : HuginnDedup.evictPublished message count entries = .ok kept) :
    Sequenced nextSequence kept.values ∧ kept.values.length + count = entries.values.length := by
  induction count generalizing entries with
  | zero =>
    obtain rfl := Except.ok.inj evicted
    exact ⟨sequenced, rfl⟩
  | succ count ih =>
    unfold HuginnDedup.evictPublished at evicted
    split at evicted
    · cases evicted
    rename_i victim entry isLeast
    have isVictim := (List.mem_filter.1 (List.argmin_mem isLeast)).1
    obtain ⟨fewer, length⟩ := ih (sequenced.filter _) evicted
    have one := length_without isVictim
    refine ⟨fewer, ?_⟩
    have length : kept.values.length + count = (without entries victim).values.length := length
    omega

/-- **Migration** gives new entries the next sequences. -/
theorem Sequenced.mergeEntries
    {all : DedupEntries} (sequenced : Sequenced nextSequence entries.values)
    (positive : 1 ≤ nextSequence) (formed : ∀ entry ∈ sorted, FormedEntry entry.1 entry.2)
    (ok : HuginnDedup.mergeEntries sorted nextSequence entries = .ok (last, all)) :
    Sequenced last all.values ∧ 1 ≤ last := by
  induction sorted generalizing nextSequence entries with
  | nil =>
    obtain ⟨rfl, rfl⟩ := Prod.mk.inj (Except.ok.inj ok)
    exact ⟨sequenced, positive⟩
  | cons first rest ih =>
    obtain ⟨key, entry⟩ := first
    have here := formed (key, entry) List.mem_cons_self
    have others := fun other isEntry => formed other (List.mem_cons_of_mem _ isEntry)
    unfold HuginnDedup.mergeEntries at ok
    split at ok
    · obtain ⟨-, -, ok⟩ := bind_eq_ok.1 ok
      exact ih sequenced positive others ok
    rename_i absent
    refine ih (sequenced.add absent rfl positive ?_) (Nat.succ_le_succ (Nat.zero_le _)) others ok
    exact ⟨here.key, here.digest, here.pending, here.published⟩

end

/-! ## Entries by key -/

def entryIn (entries : DedupEntries) (key : String) : Option DedupEntry :=
  (entries.get key).map Prod.snd

def entryOf (record : Option DedupRecord) (key : String) : Option DedupEntry :=
  record.bind fun record => entryIn record.entries key

@[simp] theorem entryOf_some (record : DedupRecord) (key : String) :
    entryOf (some record) key = entryIn record.entries key := rfl

theorem statusOf_eq (record : Option DedupRecord) (key : String) :
    statusOf record key = (entryOf record key).map DedupEntry.status := by
  rcases record with _ | record
  · rfl
  show (record.entries.get key).map _ = ((record.entries.get key).map Prod.snd).map _
  rw [Option.map_map]
  rfl

section

variable {entries kept merged all : DedupEntries} {key other : String} {entry : DedupEntry}

theorem entryIn_of_get {found : String × DedupEntry} (got : entries.get key = some found) :
    entryIn entries key = some found.2 := by
  rw [entryIn, got]
  rfl

theorem entryIn_of_mem (stored : (key, entry) ∈ entries.values) :
    entryIn entries key = some entry :=
  entryIn_of_get (Keyed.get_of_mem stored)

theorem get_of_entryIn (found : entryIn entries key = some entry) :
    entries.get key = some (key, entry) := by
  obtain ⟨⟨other, entry'⟩, got, same⟩ := Option.map_eq_some_iff.1 found
  obtain rfl : other = key := Keyed.key_of_get got
  rw [got, show entry' = entry from same]

theorem mem_of_entryIn (found : entryIn entries key = some entry) :
    (key, entry) ∈ entries.values := Keyed.mem_of_get (get_of_entryIn found)

theorem entryIn_eq_none : entryIn entries key = none ↔ entries.get key = none :=
  Option.map_eq_none_iff

theorem entryIn_put : entryIn (entries.put (other, entry)) key =
    if key = other then some entry else entryIn entries key := by
  unfold entryIn
  rw [Keyed.get_put]
  split
  · rfl
  · rfl

/-- Only entries that were there are kept. -/
theorem entryIn_of_filter {p : String × DedupEntry → Bool}
    (found : entryIn (entries.filter p) key = some entry) : entryIn entries key = some entry :=
  entryIn_of_mem (List.mem_of_mem_filter (mem_of_entryIn found))

theorem entryIn_filter {p : String × DedupEntry → Bool} (found : entryIn entries key = some entry)
    (isKept : p (key, entry) = true) : entryIn (entries.filter p) key = some entry :=
  entryIn_of_get (Keyed.get_filter (get_of_entryIn found) isKept)

/-- **Making room** only ever drops what is published. -/
structure RoomMade (entries kept : DedupEntries) : Prop where
  fewer : ∀ {key entry}, entryIn kept key = some entry → entryIn entries key = some entry
  pending : ∀ {key entry}, entryIn entries key = some entry → entry.status = .pending →
    entryIn kept key = some entry

theorem roomMade_evictPublished {count : ℕ}
    (evicted : evictPublished message count entries = .ok kept) : RoomMade entries kept := by
  induction count generalizing entries with
  | zero =>
    obtain rfl := Except.ok.inj evicted
    exact ⟨id, fun found _ => found⟩
  | succ count ih =>
    unfold evictPublished at evicted
    split at evicted
    · cases evicted
    rename_i victim published isLeast
    have isVictim := List.mem_filter.1 (List.argmin_mem isLeast)
    have made : RoomMade (without entries victim) kept := ih evicted
    refine ⟨?_, ?_⟩
    · intro key entry found
      exact entryIn_of_filter (made.fewer found)
    · intro key entry found pending
      refine made.pending (entryIn_filter found ?_) pending
      -- what is evicted is published
      refine decide_eq_true ?_
      rintro rfl
      obtain rfl := Option.some.inj ((entryIn_of_mem isVictim.1).symm.trans found)
      have isPublished : published.status = .published := of_decide_eq_true isVictim.2
      rw [pending] at isPublished
      cases isPublished

/-- **A merge** adds the entries whose keys have none, under other sequences. -/
structure Merges (sorted : List (String × DedupEntry)) (merged all : DedupEntries) : Prop where
  kept : ∀ {key entry}, entryIn merged key = some entry → entryIn all key = some entry
  added : ∀ {key entry}, entryIn all key = some entry → entryIn merged key = some entry ∨
    entryIn merged key = none ∧ ∃ old sequence, (key, old) ∈ sorted ∧ entry = { old with sequence }
  complete : ∀ entry ∈ sorted, entryIn all entry.1 ≠ none

theorem merges_mergeEntries {nextSequence : ℕ}
    (ok : mergeEntries sorted nextSequence merged = .ok (last, all)) : Merges sorted merged all := by
  induction sorted generalizing nextSequence merged with
  | nil =>
    obtain ⟨-, rfl⟩ := Prod.mk.inj (Except.ok.inj ok)
    exact ⟨id, .inl, fun _ isEntry => absurd isEntry List.not_mem_nil⟩
  | cons first rest ih =>
    obtain ⟨first, old⟩ := first
    unfold mergeEntries at ok
    split at ok
    · rename_i found got
      obtain ⟨-, -, ok⟩ := bind_eq_ok.1 ok
      have others := ih ok
      refine ⟨others.kept, ?_, ?_⟩
      · intro key entry isEntry
        rcases others.added isEntry with same | ⟨absent, old, sequence, isOld, rfl⟩
        · exact .inl same
        · exact .inr ⟨absent, old, sequence, List.mem_cons_of_mem _ isOld, rfl⟩
      · rintro entry isEntry
        rcases List.mem_cons.1 isEntry with rfl | isEntry
        · rw [others.kept (entryIn_of_get got)]
          exact Option.some_ne_none _
        · exact others.complete entry isEntry
    · rename_i absent
      have others := ih ok
      have absent : entryIn merged first = none := entryIn_eq_none.2 absent
      refine ⟨?_, ?_, ?_⟩
      · intro key entry isEntry
        refine others.kept ?_
        rw [entryIn_put, if_neg]
        · exact isEntry
        · rintro rfl
          rw [absent] at isEntry
          cases isEntry
      · intro key entry isEntry
        rcases others.added isEntry with same | ⟨gone, old, sequence, isOld, rfl⟩
        · rw [entryIn_put] at same
          split at same
          · rename_i isFirst
            obtain rfl := isFirst
            obtain rfl := Option.some.inj same
            exact .inr ⟨absent, old, nextSequence, List.mem_cons_self, rfl⟩
          · exact .inl same
        · rw [entryIn_put] at gone
          split at gone
          · cases gone
          · exact .inr ⟨gone, old, sequence, List.mem_cons_of_mem _ isOld, rfl⟩
      · intro entry isEntry
        rcases List.mem_cons.1 isEntry with rfl | isEntry
        · have isFirst : entryIn (merged.put (first, { old with sequence := nextSequence })) first =
              some { old with sequence := nextSequence } := by
            rw [entryIn_put, if_pos rfl]
          rw [others.kept isFirst]
          exact Option.some_ne_none _
        · exact others.complete entry isEntry

end

/-- **A fresh entry** is pending, and stands beside what is left. -/
theorem freshEntry_eq_ok {journal : HuginnDedupJournal} {request : ClaimRequest} {now : ℤ}
    {capacity nextSequence : ℕ} {entries kept : DedupEntries} {entry : DedupEntry}
    (ok : freshEntry journal request now capacity nextSequence entries = .ok (kept, entry)) :
    (∃ count, evictPublished "Huginn dedup journal has no completed entry to evict" count entries =
        .ok kept ∧ (capacity ≤ entries.values.length → count = 1)) ∧
      ∃ payload changeProjection, entry =
        { requestDigest := request.requestDigest, status := .pending
          ownerToken := some journal.ownerToken
          leaseExpiresAt := some (.aware (now + journal.claimLease))
          sequence := nextSequence, payload := some payload, changeProjection } := by
  unfold freshEntry at ok
  dsimp only at ok
  split at ok
  · obtain ⟨left, isLeft, ok⟩ := bind_eq_ok.1 ok
    obtain ⟨payload, -, ok⟩ := bind_eq_ok.1 ok
    obtain ⟨change, -, ok⟩ := bind_eq_ok.1 ok
    obtain ⟨rfl, rfl⟩ := Prod.mk.inj (Except.ok.inj ok)
    exact ⟨⟨1, isLeft, fun _ => rfl⟩, payload, change, rfl⟩
  rename_i room
  obtain ⟨left, isLeft, ok⟩ := bind_eq_ok.1 ok
  obtain ⟨payload, -, ok⟩ := bind_eq_ok.1 ok
  obtain ⟨change, -, ok⟩ := bind_eq_ok.1 ok
  obtain ⟨rfl, rfl⟩ := Prod.mk.inj (Except.ok.inj ok)
  exact ⟨⟨0, isLeft, fun full => absurd full room⟩, payload, change, rfl⟩

/-! ## Shards -/

def encode (revision capacity nextSequence : ℕ) (entries : DedupEntries) : DedupRecord :=
  ⟨revision, capacity, nextSequence, entries⟩

/-- **A shard within its capacity**, with unique sequences below the next one. -/
structure SoundShard (capacity : ℕ) (record : DedupRecord) : Prop where
  revised : 1 ≤ record.revision
  allotted : record.capacity = capacity
  bounded : record.entries.values.length ≤ capacity
  next : 1 ≤ record.nextSequence
  sequenced : Sequenced record.nextSequence record.entries.values

/-- **Decoding an encoded shard** gives it back. -/
theorem SoundShard.decode {capacity revision nextSequence : ℕ} {entries : DedupEntries}
    (sound : SoundShard capacity (encode revision capacity nextSequence entries))
    (positive : 1 ≤ capacity) :
    HuginnDedup.decode (some (encode revision capacity nextSequence entries)) =
      .ok ⟨revision, some capacity, nextSequence, entries⟩ := by
  rw [HuginnDedup.decode, check_bind_eq_ok, check_bind_eq_ok]
  refine ⟨?_, ?_, rfl⟩
  · simp only [validate_cons_eq_ok, validate_nil, decide_eq_true_eq, and_true]
    exact ⟨sound.revised, positive, sound.next, sound.bounded⟩
  · exact checkEntries_eq_ok.2 ⟨sound.sequenced, fun _ _ => List.not_mem_nil⟩

theorem SoundShard.decode_record {capacity : ℕ} {record : DedupRecord}
    (sound : SoundShard capacity record) (positive : 1 ≤ capacity) :
    HuginnDedup.decode (some record) =
      .ok ⟨record.revision, some record.capacity, record.nextSequence, record.entries⟩ := by
  have same : encode record.revision capacity record.nextSequence record.entries = record := by
    rw [← sound.allotted]
    rfl
  rw [← same] at sound ⊢
  exact sound.decode positive

/-- What is known of a record that was read with the capacity of its shard. -/
structure SoundDecoded (capacity : ℕ) (decoded : Decoded) : Prop where
  bounded : decoded.entries.values.length ≤ capacity
  next : 1 ≤ decoded.nextSequence
  sequenced : Sequenced decoded.nextSequence decoded.entries.values

theorem soundDecoded {read : Option DedupRecord} {decoded : Decoded} {capacity : ℕ}
    (ok : decode read = .ok decoded)
    (expected : validateCapacity decoded.capacity capacity = .ok ()) :
    SoundDecoded capacity decoded := by
  rcases read with _ | record
  · obtain rfl := Except.ok.inj ok
    exact ⟨Nat.zero_le _, Nat.le_refl _, sequenced_empty 1⟩
  unfold decode at ok
  obtain ⟨checked, ok⟩ := check_bind_eq_ok.1 ok
  obtain ⟨entries, ok⟩ := check_bind_eq_ok.1 ok
  obtain rfl := Except.ok.inj ok
  simp only [validate_cons_eq_ok, decide_eq_true_eq] at checked
  have allotted : record.capacity = capacity := by
    by_contra other
    have refused : validateCapacity (some record.capacity) capacity = .error _ := if_pos other
    rw [refused] at expected
    cases expected
  refine ⟨?_, checked.2.2.1, (checkEntries_eq_ok.1 entries).1⟩
  rw [← allotted]
  exact checked.2.2.2.1

namespace SoundDecoded

variable {capacity : ℕ} {decoded : Decoded} {key : String} {entry : DedupEntry}

/-- **A rewritten entry** leaves a sound shard. -/
theorem put (sound : SoundDecoded capacity decoded) {found : String × DedupEntry}
    (got : decoded.entries.get key = some found) (same : entry.sequence = found.2.sequence)
    (formed : FormedEntry key entry) : SoundShard capacity
      (encode (decoded.revision + 1) capacity decoded.nextSequence
        (decoded.entries.put (key, entry))) where
  revised := Nat.succ_le_succ (Nat.zero_le _)
  allotted := rfl
  bounded := by
    show (decoded.entries.put (key, entry)).values.length ≤ capacity
    rw [length_put got]
    exact sound.bounded
  next := sound.next
  sequenced := sound.sequenced.put got same formed

/-- **Compaction** leaves a sound shard. -/
theorem filter (sound : SoundDecoded capacity decoded) (p : String × DedupEntry → Bool) :
    SoundShard capacity (encode (decoded.revision + 1) capacity decoded.nextSequence
      (decoded.entries.filter p)) where
  revised := Nat.succ_le_succ (Nat.zero_le _)
  allotted := rfl
  bounded := (List.length_filter_le _ _).trans sound.bounded
  next := sound.next
  sequenced := sound.sequenced.filter p

/-- **A claim** leaves a sound shard. -/
theorem claim (sound : SoundDecoded capacity decoded)
    {journal : HuginnDedupJournal} {request : ClaimRequest} {now : ℤ} {kept : DedupEntries}
    (absent : decoded.entries.get request.idempotencyKey = none)
    (named : request.idempotencyKey ≠ "") (digest : isDigest request.requestDigest = true)
    (ok : freshEntry journal request now capacity decoded.nextSequence decoded.entries =
      .ok (kept, entry)) : SoundShard capacity
      (encode (decoded.revision + 1) capacity (decoded.nextSequence + 1)
        (kept.put (request.idempotencyKey, entry))) := by
  obtain ⟨⟨count, evicted, full⟩, payload, change, rfl⟩ := freshEntry_eq_ok ok
  obtain ⟨fewer, length⟩ := sound.sequenced.evictPublished evicted
  have made : RoomMade decoded.entries kept := roomMade_evictPublished evicted
  have absent : kept.get request.idempotencyKey = none := by
    rw [← entryIn_eq_none] at absent ⊢
    by_contra found
    obtain ⟨entry, found⟩ := Option.ne_none_iff_exists'.1 found
    rw [made.fewer found] at absent
    cases absent
  refine ⟨Nat.succ_le_succ (Nat.zero_le _), rfl, ?_, Nat.succ_le_succ (Nat.zero_le _), ?_⟩
  · show (kept.put (request.idempotencyKey, _)).values.length ≤ capacity
    rw [length_add absent]
    have bounded := sound.bounded
    by_cases isFull : capacity ≤ decoded.entries.values.length
    · have one := full isFull
      omega
    · omega
  · refine fewer.add absent rfl sound.next ⟨named, digest, ?_, ?_⟩
    · intro _
      exact ⟨⟨rfl, rfl, rfl⟩, ⟨_, rfl⟩, List.nodup_nil⟩
    · intro published
      cases published

/-- **A migration** leaves a sound shard. -/
theorem merge (sound : SoundDecoded capacity decoded) {all kept : DedupEntries}
    (formed : ∀ entry ∈ sorted, FormedEntry entry.1 entry.2)
    (ok : mergeEntries sorted decoded.nextSequence decoded.entries = .ok (last, all))
    (evicted : evictPublished message (all.values.length - capacity) all = .ok kept) :
    SoundShard capacity (encode (decoded.revision + 1) capacity last kept) := by
  obtain ⟨merged, positive⟩ := sound.sequenced.mergeEntries sound.next formed ok
  obtain ⟨fewer, length⟩ := merged.evictPublished evicted
  refine ⟨Nat.succ_le_succ (Nat.zero_le _), rfl, ?_, positive, fewer⟩
  show kept.values.length ≤ capacity
  omega

end SoundDecoded

/-- A shard has room for an entry. -/
theorem DedupLayout.shardCapacity_pos (layout : DedupLayout) (index : ℕ) :
    1 ≤ layout.shardCapacity index := by
  have count : layout.shardCount ≤ layout.capacity := min_le_right _ _
  have positive : 0 < layout.shardCount := lt_min (by decide) layout.capacity_pos
  have share : 0 < layout.capacity / layout.shardCount := Nat.div_pos count positive
  unfold DedupLayout.shardCapacity
  omega

end Fdai.Core.HuginnDedup
