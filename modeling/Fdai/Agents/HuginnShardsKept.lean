import Fdai.Agents.HuginnShardSteps

/-!
# What the shards keep

Every rewrite of a shard leaves it sound, and no pending entry is lost. Migration is another
matter: a journal merges what it read of the old layout, and another one can have finished the
migration since. An entry that was completed and compacted in between comes in a second time.

* `ShardsKept` — the shards are sound, pending entries stay until they are completed, and each
  pending entry of the old layout is merged exactly once.
* `Migrates.merged`, `MeetsCondition.migrates_of_merged` — at most once, and at least once.
* `shards_kept` — every run that meets the condition keeps the shards; `migrated_twice` is a run
  that does not.
-/

namespace Fdai.Core.HuginnDedup

open Fdai.Providers Fdai.Concurrency Fdai.Sequences Program Discipline Deduping

def PendingIn (w : DedupWorld) (index : ℕ) (key : String) (entry : DedupEntry) : Prop :=
  entryOf (w.record (.shard index)) key = some entry ∧ entry.status = .pending

/-- Journals over one store. -/
abbrev DedupSystem := System DedupOp DedupOp.Ans DedupWorld DedupError DedupResult

abbrev DedupMove := Move (HuginnDedupJournal × DedupRequest) Datetime

/-- **A move migrates an entry**: it merges it into a shard where its key has none. -/
def Migrates (layout : DedupLayout) (sys : DedupSystem) (m : DedupMove) (key : String)
    (entry : DedupEntry) : Prop :=
  ∃ index op value, Machine.Makes sys m op ∧ Writes (.shard index) value .merged op ∧
    statusOf (sys.world.record (.shard index)) key = none ∧
    PendingIn ((dedupMachine layout).move sys m).world index key entry

/-- A move completes a key: its entry is published after it. -/
def Completes (layout : DedupLayout) (sys : DedupSystem) (m : DedupMove) (index : ℕ)
    (key : String) : Prop :=
  ∃ op value, Machine.Makes sys m op ∧ Writes (.shard index) value (.completed key) op ∧
    statusOf (((dedupMachine layout).move sys m).world.record (.shard index)) key = some .published

/-- What a run from a record of the old layout has reached. -/
def reached (layout : DedupLayout) (legacy : Option DedupRecord) (moves : List DedupMove) :
    DedupSystem := (dedupMachine layout).run (Machine.idle (deployed legacy)) moves

/-- **The shards are kept.** -/
structure ShardsKept (layout : DedupLayout) (legacy : Option DedupRecord)
    (moves : List DedupMove) : Prop where
  /-- A stored shard is within its capacity, has unique sequences below the next one, and is
  decoded to what was encoded. -/
  sound : ∀ first after index record, moves = first ++ after →
    (reached layout legacy first).world.record (.shard index) = some record →
    SoundShard (layout.shardCapacity index) record ∧ decode (some record) = .ok
        ⟨record.revision, some record.capacity, record.nextSequence, record.entries⟩
  /-- A pending entry stays until its key is completed. -/
  pending : ∀ first m after index key entry, moves = first ++ m :: after →
    PendingIn (reached layout legacy first).world index key entry →
    (∃ entry', PendingIn (reached layout legacy (first ++ [m])).world index key entry' ∧
      SameWork entry entry') ∨ Completes layout (reached layout legacy first) m index key
  /-- An entry of the old layout is merged at most once, … -/
  once : ∀ first m between m' after key entry entry',
    moves = first ++ m :: (between ++ m' :: after) →
    Migrates layout (reached layout legacy first) m key entry →
    ¬ Migrates layout (reached layout legacy (first ++ m :: between)) m' key entry'
  /-- … and each pending one is merged before the old layout is emptied. -/
  all : ∀ first after key entry, moves = first ++ after → entryOf legacy key = some entry →
    entry.status = .pending → Migrated (reached layout legacy first).world →
    ∃ before m between sequence, first = before ++ m :: between ∧
      Migrates layout (reached layout legacy before) m key { entry with sequence }

section

variable {layout : DedupLayout} {legacy : Option DedupRecord} {me : ℕ} {F : DedupWorld → Prop}
  {index : ℕ} {w : DedupWorld}

theorem keeps_writeReceipts (stable : (shardsDiscipline layout legacy).Stable F) :
    (completed : List (String × DedupEntry)) →
    Keeps layout legacy me F (compactAttempts.writeReceipts completed) fun _ => F
  | [] => triple_pure fun _ _ => id
  | (_, _) :: rest =>
    triple_keep stable (fun _ _ _ => trivial) fun _ => keeps_writeReceipts stable rest

/-- What is not published is kept. -/
theorem roomMade_compacted (entries : DedupEntries) :
    RoomMade entries (entries.filter fun entry => entry.2.status ≠ .published) where
  fewer := entryIn_of_filter
  pending found pending := entryIn_filter found (by simp [pending])

theorem keeps_compactAttempts (journal : HuginnDedupJournal) (index attempts : ℕ) :
    Keeps layout legacy me (fun _ => True) (compactAttempts layout journal index attempts)
      fun _ _ => True := by
  induction attempts with
  | zero => exact triple_throw
  | succ attempts ih =>
    refine keeps_readDecoded stable_true fun read decoded isDecoded sound => ?_
    dsimp only
    split
    · exact (triple_keep_last stable_true fun _ _ _ => trivial).pre fun _ _ _ => trivial
    have stable := stable_shardRead layout legacy (.shard index) read
    have receipts : Keeps layout legacy me (ReadAt (.shard index) read) _ _ :=
      keeps_writeReceipts stable (publishedEntries decoded.entries).values
    refine triple_seq _ (receipts.pre fun _ _ known => readAt_of_eq known.2) fun _ => ?_
    refine keeps_advance isDecoded stable (fun _ => id) (fun w _ _ => ?_) fun isStored => ?_
    · exact rewrite_roomMade isDecoded (roomMade_compacted _) (sound.filter _)
    · split
      · exact (triple_keep_last stable_true fun _ _ _ => trivial).pre fun _ _ _ => trivial
      · exact ih.pre fun _ _ _ => trivial

theorem keeps_compactPublished (stable : (shardsDiscipline layout legacy).Stable F)
    (journal : HuginnDedupJournal) (index : ℕ) :
    Keeps layout legacy me F (compactPublished layout journal index) fun _ => F := by
  have compacts : Keeps layout legacy me (fun _ => True) (compactPublished layout journal index)
      fun _ _ => True := by
    refine triple_keep stable_true (fun _ _ _ => trivial) fun (compacted : Bool) => ?_
    split
    · exact triple_pure fun _ _ => id
    · exact keeps_compactAttempts journal index 8
  refine (compacts.frame_returns stable).mono (fun _ _ => id) fun result _ _ h => ?_
  cases result with
  | ok _ => exact h.2
  | error _ => trivial

/-! ### Migration -/

theorem ShardsInv.merged (inv : ShardsInv layout legacy w) {key : String}
    (pending : statusOf legacy key = some .pending)
    (present : w.shardStatus layout key ≠ none) : Merged layout key w := by
  rcases status : w.shardStatus layout key with _ | status'
  · exact absurd status present
  cases status' with
  | pending => exact .inl status
  | published => exact .inr (inv.early key pending status)

theorem keeps_mergeLegacyShard {group : List (String × DedupEntry)}
    (isGroup : LegacyGroup layout legacy index group) (attempts : ℕ) :
    Keeps layout legacy me (fun _ => True) (mergeLegacyShard layout index group attempts)
      fun _ => AllMerged layout group := by
  induction attempts with
  | zero => exact triple_throw
  | succ attempts ih =>
    refine keeps_readDecoded stable_true fun read decoded isDecoded sound => ?_
    refine triple_checked ?_
    rintro ⟨last, all⟩ isMerged
    refine triple_checked fun kept isEvicted => ?_
    have merges := merges_mergeEntries isMerged
    have made : RoomMade all kept := roomMade_evictPublished isEvicted
    have sorted (entry : String × DedupEntry) :
        entry ∈ group.insertionSort (fun a b => a.2.sequence ≤ b.2.sequence) ↔ entry ∈ group :=
      List.mem_insertionSort _
    -- a pending entry that was not in the shard is there after the merge
    have added {entry : String × DedupEntry} (isEntry : entry ∈ group)
        (pending : entry.2.status = .pending) (absent : entryIn decoded.entries entry.1 = none) :
        statusIn kept entry.1 = some .pending := by
      obtain ⟨entry', found⟩ :=
        Option.ne_none_iff_exists'.1 (merges.complete entry ((sorted entry).2 isEntry))
      rcases merges.added found with same | ⟨-, old, sequence, isOld, rfl⟩
      · rw [absent] at same
        cases same
      have isLegacy := (isGroup _ ((sorted _).1 isOld)).2.1
      obtain rfl := Option.some.inj ((isGroup entry isEntry).2.1.symm.trans isLegacy)
      rw [statusIn_eq, made.pending found pending]
      exact congrArg some pending
    -- and one that was there is merged already
    have present (w : DedupWorld) (inv : ShardsInv layout legacy w)
        (same : w.record (.shard index) = read) :
        ∀ entry ∈ group, entry.2.status = .pending →
          entryIn decoded.entries entry.1 = none ∨ Merged layout entry.1 w := by
      intro entry isEntry pending
      obtain ⟨own, isLegacy, -⟩ := isGroup entry isEntry
      refine or_iff_not_imp_left.2 fun found => inv.merged ?_ ?_
      · rw [statusOf_eq, isLegacy]
        exact congrArg some pending
      · rw [DedupWorld.shardStatus, own, same, statusOf_eq, ← entryIn_decoded isDecoded]
        exact fun absent => found (Option.map_eq_none_iff.1 absent)
    split
    · rename_i unchanged
      refine triple_pure fun w inv known entry isEntry pending => ?_
      rcases present w inv known.2 entry isEntry pending with absent | merged
      · have isPending := added isEntry pending absent
        rw [unchanged, statusIn_eq, absent] at isPending
        cases isPending
      · exact merged
    · refine Triple.pre (F := fun w => ReadAt (.shard index) read w ∧ ∀ entry ∈ group,
          entry.2.status = .pending → entryIn decoded.entries entry.1 = none ∨
            Merged layout entry.1 w) ?_
        fun w inv known => ⟨readAt_of_eq known.2, present w inv known.2⟩
      have stable : (shardsDiscipline layout legacy).Stable fun w => ∀ entry ∈ group,
          entry.2.status = .pending → entryIn decoded.entries entry.1 = none ∨
            Merged layout entry.1 w :=
        fun _ _ _ _ _ inv allowed answered known entry isEntry pending =>
          (known entry isEntry pending).imp_right
            (stable_merged layout legacy entry.1 inv allowed answered)
      refine keeps_advance isDecoded ((stable_shardRead layout legacy _ _).and stable)
        (fun _ known => known.1) (fun w _ _ => ?_) fun isStored => ?_
      · exact rewrite_merged isDecoded sound
          (fun entry isEntry => isGroup entry ((sorted entry).1 isEntry)) isMerged isEvicted
      · split
        · rename_i stored
          refine triple_pure fun w inv known entry isEntry pending => ?_
          rcases known.1.2 entry isEntry pending with absent | merged
          · refine .inl ?_
            rw [DedupWorld.shardStatus, (isGroup entry isEntry).1, known.2 stored]
            exact added isEntry pending absent
          · exact merged
        · exact ih.pre fun _ _ _ => trivial

theorem keeps_mergeLegacyShards {entries : DedupEntries}
    (isLegacy : ∀ entry ∈ entries.values, entryOf legacy entry.1 = some entry.2 ∧
      FormedEntry entry.1 entry.2) (indices : List ℕ) :
    Keeps layout legacy me (fun _ => True) (mergeLegacyShards layout entries indices)
      fun _ => AllMerged layout
        (entries.values.filter fun entry => layout.shardIndex entry.1 ∈ indices) := by
  induction indices with
  | nil =>
    refine triple_pure fun _ _ _ entry isEntry => ?_
    have none : layout.shardIndex entry.1 ∈ [] := of_decide_eq_true (List.mem_filter.1 isEntry).2
    exact absurd none List.not_mem_nil
  | cons index rest ih =>
    unfold mergeLegacyShards
    dsimp only
    -- the entries of this shard, and those of the others
    have both {w : DedupWorld} (here : AllMerged layout
          (entries.values.filter fun entry => layout.shardIndex entry.1 = index) w)
        (others : AllMerged layout
          (entries.values.filter fun entry => layout.shardIndex entry.1 ∈ rest) w) :
        AllMerged layout
          (entries.values.filter fun entry => layout.shardIndex entry.1 ∈ index :: rest) w := by
      intro entry isEntry pending
      obtain ⟨stored, own⟩ := List.mem_filter.1 isEntry
      rcases List.mem_cons.1 (of_decide_eq_true own) with isHere | isOther
      · exact here entry (List.mem_filter.2 ⟨stored, decide_eq_true isHere⟩) pending
      · exact others entry (List.mem_filter.2 ⟨stored, decide_eq_true isOther⟩) pending
    split
    · rename_i none_here
      refine ih.mono (fun _ _ => id) fun result w _ h => ?_
      rcases result with _ | _
      · trivial
      refine both (fun entry isEntry => ?_) h
      rw [none_here] at isEntry
      cases isEntry
    · have isGroup : LegacyGroup layout legacy index
          (entries.values.filter fun entry => layout.shardIndex entry.1 = index) := by
        intro entry isEntry
        obtain ⟨stored, own⟩ := List.mem_filter.1 isEntry
        exact ⟨of_decide_eq_true own, isLegacy entry stored⟩
      refine triple_seq _ (keeps_mergeLegacyShard isGroup 8) fun _ => ?_
      have others := ih.frame_returns (stable_allMerged layout legacy
        (entries.values.filter fun entry => layout.shardIndex entry.1 = index))
      refine others.mono (fun _ _ => id) fun result w _ h => ?_
      cases result with
      | ok _ => exact both h.2 h.1
      | error _ => trivial

theorem keeps_setMigrated (owner : ℕ) :
    Keeps layout legacy me Migrated (ask (.setMigrated owner)) fun _ => Migrated :=
  triple_keep_last (stable_emptied layout legacy) fun _ _ => id

theorem shardIndex_mem_range (layout : DedupLayout) (key : String) :
    layout.shardIndex key ∈ List.range layout.shardCount := by
  have positive : 0 < layout.shardCount := lt_min (by decide) layout.capacity_pos
  exact List.mem_range.2 (Nat.mod_lt _ positive)

/-- **Migration** merges all pending entries, and empties the old layout. -/
theorem keeps_migrateAttempts (journal : HuginnDedupJournal) (attempts : ℕ) :
    Keeps layout legacy me (fun _ => True) (migrateAttempts layout journal attempts)
      fun _ => Migrated := by
  induction attempts with
  | zero => exact triple_throw
  | succ attempts ih =>
    refine keeps_readDecoded stable_true fun read decoded isDecoded sound => ?_
    have entries := entryIn_decoded isDecoded
    dsimp only
    split
    · rename_i none_left
      refine (keeps_setMigrated _).pre fun w _ known key => ?_
      rw [known.2, statusOf_eq, ← entries]
      have absent : entryIn decoded.entries key = none := by
        by_contra found
        obtain ⟨entry, found⟩ := Option.ne_none_iff_exists'.1 found
        have stored := mem_of_entryIn found
        rw [none_left] at stored
        cases stored
      rw [absent]
      rfl
    · rename_i some_left
      -- a layout with entries is the one of the start
      refine Triple.pre (F := fun w => read = legacy ∧ ReadAt .legacy read w) ?_
        fun w inv known => ⟨?_, readAt_of_eq known.2⟩
      · refine triple_of_fact fun isLegacy => ?_
        subst isLegacy
        have formed (entry : String × DedupEntry) (stored : entry ∈ decoded.entries.values) :
            entryOf read entry.1 = some entry.2 ∧ FormedEntry entry.1 entry.2 := by
          refine ⟨?_, sound.sequenced.formed entry stored⟩
          rw [← entries]
          exact entryIn_of_mem stored
        have keeps : Keeps layout read me _ _ _ :=
          keeps_mergeLegacyShards formed (List.range layout.shardCount)
        have merges := keeps.frame_returns (stable_shardRead layout read .legacy read)
        refine triple_seq _ merges fun _ => ?_
        refine keeps_advance isDecoded ((stable_allMerged layout read _).and
          (stable_shardRead layout read _ _)) (fun _ known => known.2)
          (fun w known same => ⟨fun _ => rfl, fun key pending => ?_⟩) fun isStored => ?_
        · have isPending := pending
          rw [statusOf_eq, ← entries] at isPending
          obtain ⟨entry, found, status⟩ := Option.map_eq_some_iff.1 isPending
          have isEntry : (key, entry) ∈ decoded.entries.values.filter fun entry =>
              layout.shardIndex entry.1 ∈ List.range layout.shardCount :=
            List.mem_filter.2 ⟨mem_of_entryIn found,
              decide_eq_true (shardIndex_mem_range layout key)⟩
          rcases known.1 (key, entry) isEntry status with merged | migrated
          · exact merged
          have emptied := migrated key
          rw [same, pending] at emptied
          cases emptied
        · split
          · rename_i stored
            refine (keeps_setMigrated _).pre fun w _ known key => ?_
            rw [known.2 stored]
            rfl
          · exact ih.pre fun _ _ _ => trivial
      · rcases inv.origin with same | migrated
        · exact known.2.symm.trans same
        refine absurd (List.eq_nil_iff_forall_not_mem.2 fun entry stored => ?_) some_left
        have emptied := migrated entry.1
        rw [known.2, statusOf_eq, ← entries, entryIn_of_mem stored] at emptied
        cases emptied

theorem keeps_ensureMigrated (journal : HuginnDedupJournal) :
    Keeps layout legacy me (fun _ => True) (ensureMigrated layout journal) fun _ => Migrated := by
  refine triple_read stable_true (fun w => w.migrated journal.ownerToken)
    (fun _ _ _ => trivial) ?_ fun (isMigrated : Bool) => ?_
  · intro w a w' answered
    obtain ⟨now, performed⟩ := answered_shards layout legacy answered
    obtain ⟨rfl, rfl⟩ := Prod.mk.inj performed
    exact ⟨rfl, rfl⟩
  · split
    · rename_i flag
      exact triple_pure fun w inv known => inv.flagged journal.ownerToken (known.2.trans flag)
    · exact (keeps_migrateAttempts journal 8).pre fun _ _ _ => trivial

theorem FormedEntry.changed {key : String} {existing entry : DedupEntry}
    (formed : FormedEntry key existing) (digest : isDigest entry.requestDigest = true)
    (status : entry.status = existing.status)
    (pending : entry.status = .pending → (entry.ownerToken.isSome ∧ entry.leaseExpiresAt.isSome ∧
      entry.payload.isSome) ∧ (∃ instant, parseTime entry.leaseExpiresAt = .ok instant) ∧
        entry.publishedTopics.Nodup)
    (published : existing.status = .published → entry.ownerToken = none ∧
      entry.leaseExpiresAt = none ∧ entry.payload = none ∧ entry.changeProjection = none) :
    FormedEntry key entry where
  key := formed.key
  digest := digest
  pending := pending
  published isPublished := published (status.symm.trans isPublished)

theorem keeps_claimShard (journal : HuginnDedupJournal) {request : ClaimRequest}
    (wellFormed : WellFormed (.claim request)) (now : ℤ) (attempts : ℕ) :
    Keeps layout legacy me Migrated (claimShard layout journal request now attempts)
      fun _ _ => True := by
  induction attempts with
  | zero => exact triple_throw
  | succ attempts ih =>
    refine keeps_readDecoded (stable_emptied layout legacy) fun read decoded isDecoded sound => ?_
    dsimp only
    have stable := (stable_emptied layout legacy).and (stable_shardRead layout legacy
      (.shard (layout.shardIndex request.idempotencyKey)) read)
    refine Triple.pre (F := fun w => Migrated w ∧
      ReadAt (.shard (layout.shardIndex request.idempotencyKey)) read w) ?_
      fun _ _ known => ⟨known.1, readAt_of_eq known.2⟩
    split
    · rename_i other existing found
      obtain rfl : other = request.idempotencyKey := Keyed.key_of_get found
      have formed := sound.sequenced.formed _ (Keyed.mem_of_get found)
      refine triple_checked fun _ _ => ?_
      split
      · -- the digest is upgraded
        refine keeps_advance isDecoded stable (fun _ known => known.2) (fun w _ _ => ?_)
          fun _ => ih.pre fun _ _ known => known.1.1
        refine rewrite_changed isDecoded sound found (by rfl) ⟨rfl, rfl, rfl⟩ ?_
        exact formed.changed wellFormed.2 (by rfl) formed.pending formed.published
      split
      · exact triple_pure fun _ _ _ => trivial
      rename_i notPublished
      split
      · exact triple_check fun _ _ _ _ _ => trivial
      refine triple_checked fun leaseExpiresAt _ => ?_
      split
      · exact triple_throw
      -- the lease has run out, and this journal takes the claim
      refine keeps_advance isDecoded stable (fun _ known => known.2) (fun w _ _ => ?_)
        fun isStored => ?_
      · refine rewrite_changed isDecoded sound found (by rfl) ⟨rfl, rfl, rfl⟩ ?_
        refine formed.changed formed.digest (by rfl) (fun pending => ?_)
          fun published => absurd published notPublished
        obtain ⟨held, -, distinct⟩ := formed.pending pending
        exact ⟨⟨rfl, rfl, held.2.2⟩, ⟨_, rfl⟩, distinct⟩
      · split
        · exact triple_check fun _ _ _ _ _ => trivial
        · exact ih.pre fun _ _ known => known.1.1
    · rename_i absent
      refine triple_checked ?_
      rintro ⟨kept, entry⟩ isFresh
      refine keeps_advance isDecoded stable (fun _ known => known.2) (fun w known _ => ?_)
        fun isStored => ?_
      · exact rewrite_claimed isDecoded known.1 sound wellFormed absent isFresh
      · split
        · exact triple_check fun _ _ _ _ _ => trivial
        · exact ih.pre fun _ _ known => known.1.1

theorem keeps_validateTerminalRequest (stable : (shardsDiscipline layout legacy).Stable F)
    (key digest : String) (legacyDigest : Option String) (attempts : ℕ) :
    Keeps layout legacy me F (validateTerminalRequest key digest legacyDigest attempts)
      fun _ => F :=
  triple_validateTerminalRequest stable (fun _ aside w _ _ => keeps_aside aside w) key digest
    legacyDigest attempts

theorem keeps_claim (journal : HuginnDedupJournal) {request : ClaimRequest}
    (wellFormed : WellFormed (.claim request)) :
    Keeps layout legacy me (fun _ => True) (claim layout journal request) fun _ _ => True := by
  have stable := stable_emptied layout legacy
  refine triple_seq _ (keeps_ensureMigrated journal) fun _ => ?_
  refine triple_seq _ (keeps_compactPublished stable journal _) fun _ => ?_
  refine triple_keep stable (fun _ _ _ => trivial) fun (terminal : Option TerminalReceipt) => ?_
  cases terminal with
  | some _ =>
    refine triple_seq _ (keeps_validateTerminalRequest stable _ _ _ 8) fun _ => ?_
    exact triple_pure fun _ _ _ => trivial
  | none =>
    refine triple_keep stable (fun _ _ _ => trivial) fun reading => ?_
    exact triple_checked fun now _ => keeps_claimShard journal wellFormed now 8

/-! ### Completions -/

theorem keeps_completeShard (journal : HuginnDedupJournal) (key digest : String)
    (required : Bool) (attempts : ℕ) :
    Keeps layout legacy me Migrated (completeShard layout journal key digest required attempts)
      fun _ _ => True := by
  have emptied := stable_emptied layout legacy
  induction attempts with
  | zero => exact triple_throw
  | succ attempts ih =>
    refine keeps_readDecoded emptied fun read decoded isDecoded sound => ?_
    dsimp only
    refine Triple.pre (F := fun w => Migrated w ∧ ReadAt (.shard (layout.shardIndex key)) read w) ?_
      fun _ _ known => ⟨known.1, readAt_of_eq known.2⟩
    have stable := emptied.and (stable_shardRead layout legacy
      (.shard (layout.shardIndex key)) read)
    split
    · refine triple_keep stable (fun _ _ _ => trivial) fun (terminal : Option TerminalReceipt) => ?_
      rcases terminal with _ | receipt
      · exact triple_throw
      refine triple_seq _ (keeps_validateTerminalRequest stable key digest none 8) fun _ => ?_
      exact triple_pure fun _ _ _ => trivial
    rename_i other existing found
    obtain rfl : other = key := Keyed.key_of_get found
    have formed := sound.sequenced.formed _ (Keyed.mem_of_get found)
    refine triple_checked fun _ sameRequest => ?_
    have digests : digest = existing.requestDigest := by
      by_contra differ
      have refused : validateRequest existing.requestDigest digest none = .error _ :=
        if_pos ⟨Ne.symm differ, by simp⟩
      rw [refused] at sameRequest
      cases sameRequest
    split
    · exact triple_pure fun _ _ _ => trivial
    split
    · exact triple_throw
    refine triple_checked fun topics _ => ?_
    split
    · exact triple_throw
    refine keeps_advance isDecoded stable (fun _ known => known.2) (fun w known _ => ?_)
      fun isStored => ?_
    · refine rewrite_completed isDecoded known.1 sound found rfl rfl ?_
      refine ⟨formed.key, ?_, fun pending => ?_, fun _ => ⟨rfl, rfl, rfl, rfl⟩⟩
      · rw [digests]
        exact formed.digest
      · cases pending
    · split
      · exact triple_pure fun _ _ _ => trivial
      · exact ih.pre fun _ _ known => known.1.1

theorem keeps_complete (journal : HuginnDedupJournal) (key digest : String) (required : Bool) :
    Keeps layout legacy me (fun _ => True) (complete layout journal key digest required)
      fun _ _ => True := by
  refine triple_seq _ (keeps_ensureMigrated journal) fun _ => ?_
  refine triple_seq _ (keeps_compactPublished (stable_emptied layout legacy) journal _) fun _ => ?_
  refine triple_seq _ (keeps_completeShard journal key digest required 8) fun (inShard : Bool) => ?_
  split
  · refine triple_keep stable_true (fun _ _ _ => trivial) fun _ => ?_
    refine triple_seq _ (keeps_compactPublished stable_true journal _) fun _ => ?_
    exact triple_pruneTerminals stable_true (fun _ aside w _ _ => keeps_aside aside w) journal
  · exact triple_pure fun _ _ => id

theorem keeps_markShard (journal : HuginnDedupJournal) (key digest : String)
    (topic : PublicationTopic) (attempts : ℕ) :
    Keeps layout legacy me (fun _ => True) (markShard layout journal key digest topic attempts)
      fun _ _ => True := by
  induction attempts with
  | zero => exact triple_throw
  | succ attempts ih =>
    refine keeps_readDecoded stable_true fun read decoded isDecoded sound => ?_
    dsimp only
    refine Triple.pre (F := ReadAt (.shard (layout.shardIndex key)) read) ?_
      fun _ _ known => readAt_of_eq known.2
    have stable := stable_shardRead layout legacy (.shard (layout.shardIndex key)) read
    split
    · refine triple_keep stable (fun _ _ _ => trivial) fun (terminal : Option TerminalReceipt) => ?_
      split
      · exact triple_pure fun _ _ _ => trivial
      · exact triple_throw
    rename_i other existing found
    obtain rfl : other = key := Keyed.key_of_get found
    have formed := sound.sequenced.formed _ (Keyed.mem_of_get found)
    refine triple_checked fun _ _ => ?_
    split
    · exact triple_pure fun _ _ _ => trivial
    rename_i notPublished
    split
    · exact triple_throw
    split
    · exact triple_throw
    refine triple_checked fun topics _ => ?_
    split
    · exact triple_pure fun _ _ _ => trivial
    refine keeps_advance isDecoded stable (fun _ => id) (fun w _ _ => ?_) fun isStored => ?_
    · refine rewrite_changed isDecoded sound found (by rfl) ⟨rfl, rfl, rfl⟩ ?_
      refine formed.changed formed.digest (by rfl) (fun pending => ?_)
        fun published => absurd published notPublished
      obtain ⟨held, instant, -⟩ := formed.pending pending
      exact ⟨held, instant, List.Nodup.filter _ (by decide)⟩
    · split
      · exact triple_pure fun _ _ _ => trivial
      · exact ih.pre fun _ _ _ => trivial

/-- **Every operation** keeps to the discipline. -/
theorem keeps_program (journal : HuginnDedupJournal) {request : DedupRequest}
    (wellFormed : WellFormed request) :
    Keeps layout legacy me (fun _ => True) (request.program layout journal) fun _ _ => True := by
  cases request with
  | claim request => exact triple_map (keeps_claim journal wellFormed)
  | complete key digest required => exact triple_map (keeps_complete journal key digest required)
  | markPublished key digest topic =>
    refine triple_map (triple_seq _ (keeps_ensureMigrated journal) fun _ => ?_)
    refine triple_seq _ (keeps_compactPublished stable_true journal _ |>.pre fun _ _ _ => trivial)
      fun _ => ?_
    exact keeps_markShard journal key digest topic 8

end

/-! ## Runs -/

section

variable {layout : DedupLayout} {legacy : Option DedupRecord} {sys : DedupSystem} {m : DedupMove}
  {first between moves : List DedupMove} {op op' : DedupOp} {place place' : Place}
  {value value' : DedupRecord} {why why' : DedupWrite} {key : String} {entry : DedupEntry}

theorem Writes.unique (writes : Writes place value why op) (writes' : Writes place' value' why' op) :
    place = place' ∧ value = value' ∧ why = why' := by
  cases writes with
  | ifAbsent =>
    cases writes' with
    | ifAbsent => exact ⟨rfl, rfl, rfl⟩
  | compareAndSet =>
    cases writes' with
    | compareAndSet => exact ⟨rfl, rfl, rfl⟩

def StartsWellFormed : DedupMove → Prop
  | .start started => WellFormed started.2
  | .advance _ _ | .crash _ => True

instance : DecidablePred StartsWellFormed
  | .start started => inferInstanceAs (Decidable (WellFormed started.2))
  | .advance _ _ => isTrue trivial
  | .crash _ => isTrue trivial

/-- **A run that meets the condition**: its claims are well formed, and its merges are held. -/
structure MeetsCondition (layout : DedupLayout) (legacy : Option DedupRecord)
    (moves : List DedupMove) : Prop where
  wellFormed : ∀ m ∈ moves, StartsWellFormed m
  held : (dedupMachine layout).Observes MergesHeld (Machine.idle (deployed legacy)) moves

theorem MeetsCondition.before {after : List DedupMove}
    (meets : MeetsCondition layout legacy (moves ++ after)) : MeetsCondition layout legacy moves where
  wellFormed m isMove := meets.wellFormed m (List.mem_append_left _ isMove)
  held := (Machine.observes_append.1 meets.held).1

theorem MeetsCondition.upto {after : List DedupMove}
    (meets : MeetsCondition layout legacy (first ++ m :: after)) :
    MeetsCondition layout legacy (first ++ [m]) := by
  rw [← List.singleton_append, ← List.append_assoc] at meets
  exact meets.before

theorem reached_concat (first : List DedupMove) (m : DedupMove) :
    reached layout legacy (first ++ [m]) =
      (dedupMachine layout).move (reached layout legacy first) m := Machine.run_append _ _ _

/-- The replicas keep to the discipline in the whole run. -/
theorem MeetsCondition.healthy (meets : MeetsCondition layout legacy moves) :
    Machine.Healthy (shardsDiscipline layout legacy)
      (fun r w => ShardsInv layout legacy w ∧ Returns (fun _ _ => True) r w)
      (reached layout legacy moves) :=
  Machine.run_healthy_of_starts id (fun started isStart _ w inv =>
      keeps_program started.1 (meets.wellFormed (.start started) isStart) w inv trivial)
    (Machine.Healthy.idle (shardsInv_deployed layout legacy)) meets.held

/-- **What a move does**: nothing, or what a permitted call of it does. -/
theorem MeetsCondition.moved (meets : MeetsCondition layout legacy (first ++ [m])) :
    ((dedupMachine layout).move (reached layout legacy first) m).world =
        (reached layout legacy first).world ∨
      ∃ op, Machine.Makes (reached layout legacy first) m op ∧
        ShardStep layout legacy (reached layout legacy first).world op
          ((dedupMachine layout).move (reached layout legacy first) m).world := by
  have admits := (Machine.observes_append.1 meets.held).2.1
  rcases meets.before.healthy.makes id admits with same | ⟨_, op, a, makes, -, allowed, answered⟩
  · exact .inl same
  · exact .inr ⟨op, makes, shardStep allowed answered⟩

/-- A merged entry stays merged. -/
theorem MeetsCondition.merged_later (meets : MeetsCondition layout legacy (first ++ between))
    (merged : Merged layout key (reached layout legacy first).world) :
    Merged layout key (reached layout legacy (first ++ between)).world := by
  induction between using List.reverseRecOn with
  | nil =>
    rw [List.append_nil]
    exact merged
  | append_singleton between m ih =>
    rw [← List.append_assoc] at meets ⊢
    have before := ih meets.before
    rw [reached_concat]
    rcases meets.moved with same | ⟨op, -, step⟩
    · rw [same]
      exact before
    · exact before.step step

/-- **A migration**: the old layout is not emptied before it, and the entry is merged after. -/
theorem Migrates.merged (meets : MeetsCondition layout legacy (first ++ [m]))
    (migrates : Migrates layout (reached layout legacy first) m key entry) :
    (reached layout legacy first).world.shardStatus layout key = none ∧
      ¬ Migrated (reached layout legacy first).world ∧
      Merged layout key (reached layout legacy (first ++ [m])).world := by
  obtain ⟨index, op, value, makes, writes, absent, found, pending⟩ := migrates
  rw [reached_concat]
  -- the write took effect, as the entry was not there before
  have changed (same : ((dedupMachine layout).move (reached layout legacy first) m).world.record
      (.shard index) = (reached layout legacy first).world.record (.shard index)) : False := by
    rw [← same, statusOf_eq, found] at absent
    cases absent
  rcases meets.moved with same | ⟨op', makes', step⟩
  · exact (changed (by rw [same])).elim
  obtain rfl := makes.unique makes'
  generalize after : ((dedupMachine layout).move (reached layout legacy first) m).world = w'
    at step found changed ⊢
  cases step with
  | quiet records =>
    refine (changed ?_).elim
    rw [record_of_records records]
  | migrated => exact (changed rfl).elim
  | stored writes' write held raises =>
    obtain ⟨rfl, rfl, rfl⟩ := writes'.unique writes
    rw [record_stored] at found
    have stays := held index rfl rfl (key, entry) (mem_of_entryIn found) pending absent
    have notMigrated : ¬ Migrated (reached layout legacy first).world := by
      intro migrated
      exact stays (migrated key)
    rcases write.fresh found pending with before | ⟨-, migrated | ⟨-, own, -⟩⟩
    · rw [absent] at before
      cases before
    · exact absurd migrated notMigrated
    · refine ⟨?_, notMigrated, .inl ?_⟩
      · rw [DedupWorld.shardStatus, own]
        exact absent
      · rw [shardStatus_stored, if_pos own, statusIn_eq, show entryIn _ key = some entry from found]
        exact congrArg some pending

/-- **Each merged entry was migrated.** -/
theorem MeetsCondition.migrates_of_merged (meets : MeetsCondition layout legacy first)
    (isLegacy : entryOf legacy key = some entry) (pending : entry.status = .pending)
    (merged : Merged layout key (reached layout legacy first).world) :
    ∃ before m between sequence, first = before ++ m :: between ∧
      Migrates layout (reached layout legacy before) m key { entry with sequence } := by
  have legacyPending : statusOf legacy key = some .pending := by
    rw [statusOf_eq, isLegacy]
    exact congrArg some pending
  induction first using List.reverseRecOn with
  | nil =>
    rcases merged with isPending | migrated
    · have shard : (deployed legacy).record (.shard (layout.shardIndex key)) = none := by
        cases legacy with
        | none => rfl
        | some record => exact record_stored_ne (by simp)
      have isPending : (deployed legacy).shardStatus layout key = some .pending := isPending
      rw [DedupWorld.shardStatus, shard] at isPending
      cases isPending
    · have emptied : statusOf ((deployed legacy).record .legacy) key = none := migrated key
      have stored : (deployed legacy).record .legacy = legacy := by
        cases legacy with
        | none => rfl
        | some record => exact record_stored
      rw [stored, legacyPending] at emptied
      cases emptied
  | append_singleton first m ih =>
    by_cases before : Merged layout key (reached layout legacy first).world
    · obtain ⟨earlier, m', between, sequence, rfl, migrates⟩ := ih meets.before before
      exact ⟨earlier, m', between ++ [m], sequence, by simp, migrates⟩
    refine ⟨first, m, [], ?_⟩
    rw [reached_concat] at merged
    have inv : ShardsInv layout legacy (reached layout legacy first).world :=
      meets.before.healthy.inv
    have notMigrated : ¬ Migrated (reached layout legacy first).world :=
      fun migrated => before (.inr migrated)
    rcases meets.moved with same | ⟨op, makes, step⟩
    · rw [same] at merged
      exact absurd merged before
    unfold Migrates PendingIn
    generalize ((dedupMachine layout).move (reached layout legacy first) m).world = w'
      at step merged ⊢
    cases step with
    | quiet records =>
      refine absurd (merged.imp (fun isPending => ?_) fun migrated => ?_) before
      · rw [DedupWorld.shardStatus, record_of_records records] at isPending
        exact isPending
      · intro other
        have emptied := migrated other
        rw [record_of_records records] at emptied
        exact emptied
    | migrated owner isMigrated => exact absurd isMigrated notMigrated
    | @stored place value why writes write held raises =>
      cases place with
      | legacy =>
        -- the old layout is emptied only once the entry is in its shard
        refine absurd (.inl (write.2 key ?_)) before
        rcases inv.origin with same | migrated
        · rw [same]
          exact legacyPending
        · exact absurd migrated notMigrated
      | shard index =>
        have isPending : ((reached layout legacy first).world.stored (.shard index)
            value).shardStatus layout key = some .pending := by
          rcases merged with isPending | migrated
          · exact isPending
          refine absurd (fun other => ?_) notMigrated
          have emptied := migrated other
          rw [record_stored_ne (by simp)] at emptied
          exact emptied
        rw [shardStatus_stored] at isPending
        split at isPending
        · rename_i own
          rw [statusIn_eq] at isPending
          obtain ⟨after, found, status⟩ := Option.map_eq_some_iff.1 isPending
          rcases write.fresh found status with
            there | ⟨absent, migrated | ⟨rfl, -, old, sequence, isOld, rfl⟩⟩
          · refine absurd (.inl ?_) before
            rw [DedupWorld.shardStatus, own]
            exact there
          · exact absurd migrated notMigrated
          · obtain rfl := Option.some.inj (isLegacy.symm.trans isOld)
            refine ⟨sequence, rfl, index, op, value, makes, writes, absent, ?_, status⟩
            rw [record_stored]
            exact found
        · exact absurd (.inl isPending) before

/-- **A pending entry stays** until its key is completed. -/
theorem MeetsCondition.pending_stays {index : ℕ}
    (meets : MeetsCondition layout legacy (first ++ [m]))
    (isPending : PendingIn (reached layout legacy first).world index key entry) :
    (∃ entry', PendingIn (reached layout legacy (first ++ [m])).world index key entry' ∧
      SameWork entry entry') ∨ Completes layout (reached layout legacy first) m index key := by
  obtain ⟨found, pending⟩ := isPending
  rw [reached_concat]
  rcases meets.moved with same | ⟨op, makes, step⟩
  · refine .inl ⟨entry, ⟨?_, pending⟩, .refl entry⟩
    rw [same]
    exact found
  unfold Completes PendingIn
  generalize ((dedupMachine layout).move (reached layout legacy first) m).world = w' at step ⊢
  cases step with
  | quiet records =>
    refine .inl ⟨entry, ⟨?_, pending⟩, .refl entry⟩
    rw [record_of_records records]
    exact found
  | migrated => exact .inl ⟨entry, ⟨found, pending⟩, .refl entry⟩
  | @stored place value why writes write held raises =>
    by_cases same : Place.shard index = place
    · subst same
      rw [record_stored]
      rcases write.pending found pending with ⟨entry', found', stays, work⟩ | ⟨rfl, -, published⟩
      · exact .inl ⟨entry', ⟨found', stays⟩, work⟩
      · exact .inr ⟨op, value, makes, writes, published⟩
    · rw [record_stored_ne same]
      exact .inl ⟨entry, ⟨found, pending⟩, .refl entry⟩

end

/-- **The shards are kept** in every run whose merges are held. -/
theorem shards_kept (layout : DedupLayout) (legacy : Option DedupRecord) (moves : List DedupMove)
    (meets : MeetsCondition layout legacy moves) : ShardsKept layout legacy moves where
  sound first after index record split stored := by
    subst split
    have sound := meets.before.healthy.inv.sound index record stored
    exact ⟨sound, sound.decode_record (layout.shardCapacity_pos index)⟩
  pending first m after index key entry split isPending := by
    subst split
    exact meets.upto.pending_stays isPending
  once first m between m' after key entry entry' split migrates migrates' := by
    subst split
    have regrouped : first ++ m :: (between ++ m' :: after) =
        (first ++ m :: between) ++ m' :: after := by simp
    have merged := (migrates.merged meets.upto).2.2
    rw [regrouped] at meets
    obtain ⟨absent, notMigrated, -⟩ := migrates'.merged meets.upto
    -- what the first move merged is still merged before the second
    have grouped : first ++ m :: between = (first ++ [m]) ++ between := by simp
    rw [grouped] at absent notMigrated meets
    rcases meets.before.merged_later merged with isPending | migrated
    · rw [absent] at isPending
      cases isPending
    · exact notMigrated migrated
  all first after key entry split isLegacy pending migrated := by
    subst split
    exact meets.before.migrates_of_merged isLegacy pending (.inr migrated)

private def mergesInto (sys : DedupSystem) : DedupMove → Option ℕ
  | .advance replica _ =>
    match sys.pool[replica]? with
    | some (some (.call (.writeEntriesIfAbsent (.shard index) _ .merged) _)) => some index
    | some (some (.call (.compareAndSetEntries (.shard index) _ _ .merged) _)) => some index
    | _ => none
  | _ => none

theorem migrates_of_mergesInto {layout : DedupLayout} {sys : DedupSystem} {m : DedupMove}
    {key : String} {entry : DedupEntry} (index : ℕ) (merges : mergesInto sys m = some index)
    (absent : statusOf (sys.world.record (.shard index)) key = none)
    (found : entryOf (((dedupMachine layout).move sys m).world.record (.shard index)) key =
      some entry) (pending : entry.status = .pending) : Migrates layout sys m key entry := by
  unfold mergesInto at merges
  split at merges
  · rename_i replica oracle
    split at merges
    · rename_i index' value next called
      obtain rfl := Option.some.inj merges
      exact ⟨_, _, value, ⟨replica, oracle, next, rfl, called⟩, .ifAbsent, absent, found, pending⟩
    · rename_i index' value expectedRevision next called
      obtain rfl := Option.some.inj merges
      exact ⟨_, _, value, ⟨replica, oracle, next, rfl, called⟩, .compareAndSet _, absent, found,
        pending⟩
    · cases merges
  · cases merges

/-- Four entries, in one shard. -/
private def fourEntries : DedupLayout := ⟨4, fun _ => 0, Nat.succ_pos 3⟩

/-- Journals whose claims last for a minute. -/
private def shardJournal (owner : ℕ) : HuginnDedupJournal :=
  ⟨owner, Datetime.minutes 1, minute_pos, minute_le⟩

private def legacyDigest : String :=
  "sha256:0123456789abcdef0123456789abcdef0123456789abcdef0123456789abcdef"

/-- A claim of the old layout whose lease has run out. -/
private def legacyEntry : DedupEntry :=
  { requestDigest := legacyDigest, status := .pending, ownerToken := some 2
    leaseExpiresAt := some (.aware 0), sequence := 1, payload := some "{}"
    changeProjection := none }

private def legacyRecord : DedupRecord := ⟨1, 4, 2, Keyed.empty.put ("k", legacyEntry)⟩

private def legacyClaim : ClaimRequest :=
  { idempotencyKey := "k", requestDigest := legacyDigest, payload := .mapping "{}" }

/-- Advance one replica. -/
private def forward (replica count : ℕ) : List DedupMove :=
  List.replicate count (.advance replica (.aware 1))

/-- A journal migrates the old layout, takes its claim over and completes it. -/
private def migratedAndCompleted : List DedupMove :=
  .start (shardJournal 0, .claim legacyClaim) :: forward 0 13 ++
    .start (shardJournal 0, .complete "k" legacyDigest) :: forward 1 12

/-- One journal after the other keeps to the condition. -/
theorem shards_kept_migrated : ShardsKept fourEntries (some legacyRecord) migratedAndCompleted :=
  shards_kept fourEntries (some legacyRecord) migratedAndCompleted
    ⟨by decide +kernel, by decide +kernel⟩

/-- Another journal has read the old layout and the shard before this one begins. -/
private def lateMigration : List DedupMove :=
  .start (shardJournal 1, .claim legacyClaim) :: forward 0 3 ++
    .start (shardJournal 0, .claim legacyClaim) :: forward 1 3

/-- What the journal does with the claim that it has migrated. -/
private def completedSince : List DedupMove :=
  forward 1 9 ++ .start (shardJournal 0, .complete "k" legacyDigest) :: forward 2 12 ++ forward 0 2

/-- **The completed claim is migrated again.** -/
theorem migrated_twice : ¬ ShardsKept fourEntries (some legacyRecord)
    (lateMigration ++ .advance 1 (.aware 1) :: (completedSince ++ [.advance 0 (.aware 1)])) := by
  intro kept
  refine kept.once lateMigration (.advance 1 (.aware 1)) completedSince (.advance 0 (.aware 1)) []
    "k" { legacyEntry with sequence := 1 } { legacyEntry with sequence := 2 } rfl ?_ ?_
  · exact migrates_of_mergesInto 0 (by decide +kernel) (by decide +kernel) (by decide +kernel) rfl
  · exact migrates_of_mergesInto 0 (by decide +kernel) (by decide +kernel) (by decide +kernel) rfl

end Fdai.Core.HuginnDedup
