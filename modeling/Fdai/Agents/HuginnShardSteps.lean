import Fdai.Agents.HuginnFence
import Fdai.Agents.HuginnShards

/-!
# The writes of the shards

What every write of a journal does to a shard, if the merges of a run are held: what a merge
adds is still in the old layout.

* `ShardRewrite`, `ShardWrite`, `ShardsInv` — what a write of a record does, and the invariant;
  `shardStep` and `ShardsInv.step` for one call.
* `shardsDiscipline` — the discipline the journals keep to.
* `rewrite_roomMade`, `rewrite_changed`, `rewrite_completed`, `rewrite_claimed`,
  `rewrite_merged` — the five ways a shard is rewritten.
-/

namespace Fdai.Core.HuginnDedup

open Fdai.Providers Fdai.Concurrency Fdai.Sequences Program Discipline Deduping

/-- Each pending entry that a write adds to a shard is still in the old layout. -/
def StillHeld (w : DedupWorld) (index : ℕ) (value : DedupRecord) : Prop :=
  ∀ entry ∈ value.entries.values, entry.2.status = .pending →
    statusOf (w.record (.shard index)) entry.1 = none → statusOf (w.record .legacy) entry.1 ≠ none

/-- **The condition on a call**: a merge that takes effect adds only what is still held. -/
def MergesHeld (w : DedupWorld) : DedupOp → Prop
  | .writeEntriesIfAbsent (.shard index) value .merged =>
    w.record (.shard index) = none → StillHeld w index value
  | .compareAndSetEntries (.shard index) value expectedRevision .merged =>
    (∃ record ∈ w.record (.shard index), record.revision = expectedRevision) →
      StillHeld w index value
  | _ => True

/-- A claim names a key, and hands in the digest of its request. -/
def WellFormed : DedupRequest → Prop
  | .claim request => request.idempotencyKey ≠ "" ∧ isDigest request.requestDigest = true
  | _ => True

instance (w : DedupWorld) (index : ℕ) (value : DedupRecord) :
    Decidable (StillHeld w index value) := by
  unfold StillHeld
  infer_instance

instance (w : DedupWorld) (op : DedupOp) : Decidable (MergesHeld w op) := by
  unfold MergesHeld
  split <;> infer_instance

instance (request : DedupRequest) : Decidable (WellFormed request) := by
  unfold WellFormed
  split <;> infer_instance

/-! ## Steps -/

/-- The call writes the record of a place. -/
inductive Writes (place : Place) (value : DedupRecord) (why : DedupWrite) : DedupOp → Prop
  | ifAbsent : Writes place value why (.writeEntriesIfAbsent place value why)
  | compareAndSet (expectedRevision : ℕ) :
      Writes place value why (.compareAndSetEntries place value expectedRevision why)

structure SameWork (entry entry' : DedupEntry) : Prop where
  sequence : entry'.sequence = entry.sequence
  payload : entry'.payload = entry.payload
  changeProjection : entry'.changeProjection = entry.changeProjection

section

variable (layout : DedupLayout) (legacy : Option DedupRecord)

/-- **What a rewrite of a shard does** to its entries. -/
structure ShardRewrite (w : DedupWorld) (index : ℕ) (old : Option DedupRecord)
    (new : DedupRecord) (why : DedupWrite) : Prop where
  sound : SoundShard (layout.shardCapacity index) new
  pending : ∀ {key entry}, entryOf old key = some entry → entry.status = .pending →
    (∃ entry', entryIn new.entries key = some entry' ∧ entry'.status = .pending ∧
      SameWork entry entry') ∨
    why = .completed key ∧ Migrated w ∧ statusIn new.entries key = some .published
  fresh : ∀ {key entry}, entryIn new.entries key = some entry → entry.status = .pending →
    statusOf old key = some .pending ∨ statusOf old key = none ∧ (Migrated w ∨ why = .merged ∧
      layout.shardIndex key = index ∧
      ∃ old sequence, entryOf legacy key = some old ∧ entry = { old with sequence })
  published : ∀ {key}, statusIn new.entries key = some .published →
    statusOf old key = some .published ∨ Migrated w ∨ statusOf legacy key = some .published

def ShardWrite (w : DedupWorld) (old : Option DedupRecord) (new : DedupRecord) (why : DedupWrite) :
    Place → Prop
  | .legacy => (∀ key, statusIn new.entries key = none) ∧
      ∀ key, statusOf old key = some .pending → w.shardStatus layout key = some .pending
  | .shard index => ShardRewrite layout legacy w index old new why

/-- The calls a journal may make. -/
def ShardPermit (w : DedupWorld) : DedupOp → Prop
  | .writeEntriesIfAbsent place value why =>
    w.record place = none → ShardWrite layout legacy w none value why place
  | .compareAndSetEntries place value expectedRevision why =>
    ∀ stored, w.record place = some stored → stored.revision = expectedRevision →
      ShardWrite layout legacy w (some stored) value why place ∧
        value.revision = expectedRevision + 1
  | .setMigrated _ => Migrated w
  | _ => True

/-- **The invariant.** -/
structure ShardsInv (w : DedupWorld) : Prop where
  sound : ∀ index, ∀ record ∈ w.record (.shard index),
    SoundShard (layout.shardCapacity index) record
  /-- The old layout is as it was, until it is emptied. -/
  origin : w.record .legacy = legacy ∨ Migrated w
  flagged : ∀ owner, w.migrated owner = true → Migrated w
  /-- No pending entry of the old layout is completed before it is emptied. -/
  early : ∀ key, statusOf legacy key = some .pending →
    w.shardStatus layout key = some .published → Migrated w

/-- What a permitted call does to the world, if the merges of the run are held. -/
inductive ShardStep (w : DedupWorld) (op : DedupOp) : DedupWorld → Prop
  | quiet {w' : DedupWorld} (records : w'.records = w.records)
      (migrated : w'.migrated = w.migrated) : ShardStep w op w'
  | migrated (owner : ℕ) (isMigrated : Migrated w) :
      ShardStep w op { w with migrated := Function.update w.migrated owner true }
  | stored {place : Place} {value : DedupRecord} {why : DedupWrite}
      (writes : Writes place value why op)
      (write : ShardWrite layout legacy w (w.record place) value why place)
      (held : ∀ index, place = .shard index → why = .merged → StillHeld w index value)
      (raises : ∀ old ∈ w.record place, old.revision < value.revision) :
      ShardStep w op (w.stored place value)

end

section

variable {layout : DedupLayout} {legacy : Option DedupRecord} {w w' : DedupWorld} {op : DedupOp}
  {place : Place} {value : DedupRecord} {why : DedupWrite} {key : String} {index : ℕ}

theorem shardsInv_deployed (layout : DedupLayout) (legacy : Option DedupRecord) :
    ShardsInv layout legacy (deployed legacy) := by
  have shards (index : ℕ) : (deployed legacy).record (.shard index) = none := by
    cases legacy with
    | none => rfl
    | some record => exact record_stored_ne (by simp)
  refine ⟨?_, ?_, ?_, ?_⟩
  · intro index record stored
    rw [shards] at stored
    cases stored
  · refine .inl ?_
    cases legacy with
    | none => rfl
    | some record => exact record_stored
  · intro owner flag
    cases legacy with
    | none | some record => cases flag
  · intro key _ published
    rw [DedupWorld.shardStatus, shards] at published
    cases published

/-- **What one call can do.** -/
theorem shardStep {a : op.Ans} (allowed : ShardPermit layout legacy w op)
    (answered : (dedupMachine layout).Answers MergesHeld w op a w') :
    ShardStep layout legacy w op w' := by
  obtain ⟨held, now, performed⟩ := answered
  obtain ⟨-, rfl⟩ := Prod.mk.inj performed
  cases op with
  | now | readEntries | readTerminal | isMigrated | isCompacted | setCompacted
  | deleteTerminalsBeyond | writeTerminalIfAbsent | compareAndSetTerminal => exact .quiet rfl rfl
  | countCompletion owner pruneInterval =>
    show ShardStep layout legacy w _
      (DedupWorld.perform now w (.countCompletion owner pruneInterval)).2
    unfold DedupWorld.perform
    dsimp only
    split
    · exact .quiet rfl rfl
    · exact .quiet rfl rfl
  | setMigrated owner => exact .migrated owner allowed
  | writeEntriesIfAbsent place value why =>
    show ShardStep layout legacy w _
      (if (w.records.writeIfAbsent place value).1 then w.stored place value else w)
    rcases written : w.records.writeIfAbsent place value with ⟨isStored, store⟩
    rcases StateStore.writeIfAbsent_cases written with ⟨rfl, -, -⟩ | ⟨rfl, absent, -⟩
    · exact .quiet rfl rfl
    have absent : w.record place = none := absent
    refine .stored .ifAbsent ?_ ?_ ?_
    · rw [absent]
      exact allowed absent
    · rintro index rfl rfl
      exact held absent
    · intro old isOld
      rw [absent] at isOld
      cases isOld
  | compareAndSetEntries place value expectedRevision why =>
    show ShardStep layout legacy w _
      (if (w.records.compareAndSet (fun _ record => record.revision) place value
          expectedRevision).1 then w.stored place value else w)
    rcases written : w.records.compareAndSet (fun _ record => record.revision) place value
      expectedRevision with ⟨isStored, store⟩
    rcases StateStore.compareAndSet_cases written with
      ⟨rfl, -⟩ | ⟨rfl, -, stored, found, current⟩
    · exact .quiet rfl rfl
    have found : w.record place = some stored := found
    obtain ⟨write, raised⟩ := allowed stored found current
    refine .stored (.compareAndSet expectedRevision) ?_ ?_ ?_
    · rw [found]
      exact write
    · rintro index rfl rfl
      exact held ⟨stored, found, current⟩
    · intro old isOld
      obtain rfl := Option.some.inj (found.symm.trans isOld)
      omega

/-! ### What a step keeps -/

/-- **An emptied layout stays empty.** -/
theorem ShardStep.migrated_later (step : ShardStep layout legacy w op w')
    (migrated : Migrated w) : Migrated w' := by
  intro key
  cases step with
  | quiet records =>
    rw [record_of_records records]
    exact migrated key
  | migrated => exact migrated key
  | @stored place value why _ write _ _ =>
    cases place with
    | legacy =>
      rw [record_stored]
      exact write.1 key
    | shard index =>
      rw [record_stored_ne (by simp)]
      exact migrated key

/-- A pending entry of the old layout is in its shard, or the layout is emptied. -/
def Merged (layout : DedupLayout) (key : String) (w : DedupWorld) : Prop :=
  w.shardStatus layout key = some .pending ∨ Migrated w

theorem Merged.step (merged : Merged layout key w) (step : ShardStep layout legacy w op w') :
    Merged layout key w' := by
  rcases merged with pending | migrated
  · cases step with
    | quiet records =>
      refine .inl ?_
      rw [DedupWorld.shardStatus, record_of_records records]
      exact pending
    | migrated => exact .inl pending
    | @stored place value why writes write held raises =>
      cases place with
      | legacy =>
        refine .inl ?_
        rw [DedupWorld.shardStatus, record_stored_ne (by simp)]
        exact pending
      | shard index =>
        rw [Merged, shardStatus_stored]
        by_cases own : layout.shardIndex key = index
        · rw [if_pos own]
          rw [DedupWorld.shardStatus, own, statusOf_eq] at pending
          obtain ⟨entry, found, isPending⟩ := Option.map_eq_some_iff.1 pending
          rcases write.pending found isPending with ⟨entry', found', stays, -⟩ | ⟨-, migrated, -⟩
          · refine .inl ?_
            rw [← statusOf_some, statusOf_eq, entryOf_some, found']
            exact congrArg some stays
          · refine .inr ?_
            exact (ShardStep.stored writes write held raises).migrated_later migrated
        · rw [if_neg own]
          exact .inl pending
  · exact .inr (step.migrated_later migrated)

theorem ShardsInv.origin_step (inv : ShardsInv layout legacy w)
    (step : ShardStep layout legacy w op w') :
    w'.record .legacy = legacy ∨ Migrated w' := by
  rcases inv.origin with same | migrated
  · cases step with
    | quiet records =>
      refine .inl ?_
      rw [record_of_records records]
      exact same
    | migrated => exact .inl same
    | @stored place value why _ write _ _ =>
      cases place with
      | legacy =>
        refine .inr fun key => ?_
        rw [record_stored]
        exact write.1 key
      | shard index =>
        rw [record_stored_ne (by simp)]
        exact .inl same
  · exact .inr (step.migrated_later migrated)

theorem ShardsInv.early_step (inv : ShardsInv layout legacy w)
    (step : ShardStep layout legacy w op w') (legacyPending : statusOf legacy key = some .pending)
    (published : w'.shardStatus layout key = some .published) : Migrated w' := by
  have later := step.migrated_later
  cases step with
  | quiet records =>
    rw [DedupWorld.shardStatus, record_of_records records] at published
    exact later (inv.early key legacyPending published)
  | migrated => exact later (inv.early key legacyPending published)
  | @stored place value why _ write _ _ =>
    cases place with
    | legacy =>
      rw [DedupWorld.shardStatus, record_stored_ne (by simp)] at published
      exact later (inv.early key legacyPending published)
    | shard index =>
      rw [shardStatus_stored] at published
      split at published
      · rename_i own
        rcases write.published published with before | migrated | other
        · refine later (inv.early key legacyPending ?_)
          rw [DedupWorld.shardStatus, own]
          exact before
        · exact later migrated
        · rw [legacyPending] at other
          cases other
      · exact later (inv.early key legacyPending published)

/-- **Every step keeps the invariant.** -/
theorem ShardsInv.step (inv : ShardsInv layout legacy w)
    (step : ShardStep layout legacy w op w') : ShardsInv layout legacy w' where
  origin := inv.origin_step step
  early _ := inv.early_step step
  sound index record stored := by
    cases step with
    | quiet records =>
      rw [record_of_records records] at stored
      exact inv.sound index record stored
    | migrated => exact inv.sound index record stored
    | @stored place value why _ write _ _ =>
      by_cases same : Place.shard index = place
      · subst same
        rw [record_stored] at stored
        obtain rfl := Option.some.inj stored
        exact write.sound
      · rw [record_stored_ne same] at stored
        exact inv.sound index record stored
  flagged owner flag := by
    have later := step.migrated_later
    cases step with
    | quiet _ migrated =>
      rw [migrated] at flag
      exact later (inv.flagged owner flag)
    | migrated _ isMigrated => exact later isMigrated
    | stored => exact later (inv.flagged owner flag)

end

/-- Journals over one store, as replicas that keep to `ShardPermit`. -/
def shardsDiscipline (layout : DedupLayout) (legacy : Option DedupRecord) :
    Discipline DedupOp DedupOp.Ans DedupWorld where
  permit _ := ShardPermit layout legacy
  answers := (dedupMachine layout).Answers MergesHeld
  inv := ShardsInv layout legacy
  kept allowed answered inv := inv.step (shardStep allowed answered)

section

variable (layout : DedupLayout) (legacy : Option DedupRecord)

theorem answered_shards : Answered (shardsDiscipline layout legacy) :=
  fun _ _ _ _ answered => answered.2

theorem stable_emptied : (shardsDiscipline layout legacy).Stable Migrated :=
  fun _ _ _ _ _ _ allowed answered migrated => (shardStep allowed answered).migrated_later migrated

theorem stable_merged (key : String) : (shardsDiscipline layout legacy).Stable (Merged layout key) :=
  fun _ _ _ _ _ _ allowed answered merged => merged.step (shardStep allowed answered)

theorem stable_shardRead (place : Place) (read : Option DedupRecord) :
    (shardsDiscipline layout legacy).Stable (ReadAt place read) := by
  intro replica w op a w' _ allowed answered known r isRead
  obtain ⟨stored, found, state⟩ := known r isRead
  cases shardStep allowed answered with
  | quiet records =>
    rw [record_of_records records]
    exact ⟨stored, found, state⟩
  | migrated => exact ⟨stored, found, state⟩
  | @stored other value why _ _ _ raises =>
    by_cases same : place = other
    · subst same
      refine ⟨value, record_stored, .inr ?_⟩
      have raised := raises stored found
      rcases state with rfl | later
      · exact raised
      · exact later.trans raised
    · rw [record_stored_ne same]
      exact ⟨stored, found, state⟩

def AllMerged (group : List (String × DedupEntry)) (w : DedupWorld) : Prop :=
  ∀ entry ∈ group, entry.2.status = .pending → Merged layout entry.1 w

theorem stable_allMerged (group : List (String × DedupEntry)) :
    (shardsDiscipline layout legacy).Stable (AllMerged layout group) :=
  fun _ _ _ _ _ inv allowed answered known entry isEntry pending =>
    stable_merged layout legacy entry.1 inv allowed answered (known entry isEntry pending)

end

section

variable {layout : DedupLayout} {legacy : Option DedupRecord} {me : ℕ} {F : DedupWorld → Prop}
  {α : Type} {goal : α → DedupWorld → Prop} {read : Option DedupRecord} {decoded : Decoded}
  {index : ℕ} {w : DedupWorld}

/-- A program that keeps to the discipline, and what it returns with. -/
abbrev Keeps (layout : DedupLayout) (legacy : Option DedupRecord) (me : ℕ)
    (F : DedupWorld → Prop) (p : Deduping α) (goal : α → DedupWorld → Prop) : Prop :=
  (shardsDiscipline layout legacy).Triple me F p (Returns goal)

theorem keeps_aside {op : DedupOp} (aside : Aside op) (w : DedupWorld) :
    ShardPermit layout legacy w op := by
  cases op with
  | readTerminal | compareAndSetTerminal | deleteTerminalsBeyond | isCompacted | setCompacted
  | countCompletion => trivial
  | now | readEntries | writeEntriesIfAbsent | compareAndSetEntries | writeTerminalIfAbsent
  | isMigrated | setMigrated => exact aside.elim

theorem keeps_readDecoded {place : Place} {capacity : ℕ}
    {f : Option DedupRecord × Decoded → Deduping α}
    (stable : (shardsDiscipline layout legacy).Stable F)
    (next : ∀ read decoded, decode read = .ok decoded → SoundDecoded capacity decoded →
      Keeps layout legacy me (fun w => F w ∧ w.record place = read) (f (read, decoded)) goal) :
    Keeps layout legacy me F (readDecoded place capacity >>= f) goal :=
  triple_readDecoded (answered_shards layout legacy) stable (fun _ _ _ => trivial)
    fun read decoded isDecoded expected =>
      next read decoded isDecoded (soundDecoded isDecoded expected)

/-- **A write** of what was computed from the record that was read. -/
theorem keeps_advance {place : Place} {capacity nextSequence : ℕ} {entries : DedupEntries}
    {why : DedupWrite} {f : Bool → Deduping α} (isDecoded : decode read = .ok decoded)
    (stable : (shardsDiscipline layout legacy).Stable F)
    (isRead : ∀ w, F w → ReadAt place read w)
    (write : ∀ w, F w → w.record place = read → ShardWrite layout legacy w read
      (encode (decoded.revision + 1) capacity nextSequence entries) why place)
    (next : ∀ isStored, Keeps layout legacy me (fun w => F w ∧ (isStored = true →
      w.record place = some (encode (decoded.revision + 1) capacity nextSequence entries)))
      (f isStored) goal) :
    Keeps layout legacy me F
      (advance place read decoded.revision capacity nextSequence entries why >>= f) goal := by
  refine triple_advance (answered_shards layout legacy) stable (fun w _ known => ?_) next
  rcases read with _ | r
  · exact write w known
  have revision : decoded.revision = r.revision := ((decode_eq_ok isDecoded).2 r rfl).1
  intro stored found current
  obtain rfl := (isRead w known).same found (current.trans revision)
  exact ⟨write w known found, rfl⟩

/-! ### Rewrites -/

theorem entryIn_decoded (isDecoded : decode read = .ok decoded) (key : String) :
    entryIn decoded.entries key = entryOf read key := by
  cases read with
  | none =>
    obtain rfl := Except.ok.inj isDecoded
    rfl
  | some r => rw [((decode_eq_ok isDecoded).2 r rfl).2, entryOf_some]

theorem statusIn_eq (entries : DedupEntries) (key : String) :
    statusIn entries key = (entryIn entries key).map DedupEntry.status := by
  unfold statusIn entryIn
  rw [Option.map_map]
  rfl

theorem SameWork.refl (entry : DedupEntry) : SameWork entry entry := ⟨rfl, rfl, rfl⟩

/-- **Fewer entries**, all pending ones among them. -/
theorem rewrite_roomMade {kept : DedupEntries} {nextSequence : ℕ} {why : DedupWrite}
    (isDecoded : decode read = .ok decoded) (made : RoomMade decoded.entries kept)
    (sound : SoundShard (layout.shardCapacity index)
      (encode (decoded.revision + 1) (layout.shardCapacity index) nextSequence kept)) :
    ShardRewrite layout legacy w index read
      (encode (decoded.revision + 1) (layout.shardCapacity index) nextSequence kept) why where
  sound := sound
  pending {key entry} found pending := by
    rw [← entryIn_decoded isDecoded] at found
    exact .inl ⟨entry, made.pending found pending, pending, .refl entry⟩
  fresh {key entry} found pending := by
    refine .inl ?_
    rw [statusOf_eq, ← entryIn_decoded isDecoded, made.fewer found]
    exact congrArg some pending
  published {key} published := by
    rw [statusIn_eq] at published
    obtain ⟨entry, found, isPublished⟩ := Option.map_eq_some_iff.1 published
    refine .inl ?_
    rw [statusOf_eq, ← entryIn_decoded isDecoded, made.fewer found]
    exact congrArg some isPublished

/-- **Another entry** of a key, of the same status, for the same work. -/
theorem rewrite_changed {key other : String} {existing entry : DedupEntry}
    (isDecoded : decode read = .ok decoded)
    (sound : SoundDecoded (layout.shardCapacity index) decoded)
    (got : decoded.entries.get key = some (other, existing)) (status : entry.status = existing.status)
    (same : SameWork existing entry) (formed : FormedEntry key entry) :
    ShardRewrite layout legacy w index read (encode (decoded.revision + 1)
      (layout.shardCapacity index) decoded.nextSequence (decoded.entries.put (key, entry)))
      .changed := by
  have found : entryOf read key = some existing := by
    rw [← entryIn_decoded isDecoded]
    exact entryIn_of_get got
  have entries (k : String) : entryIn (decoded.entries.put (key, entry)) k =
      if k = key then some entry else entryOf read k := by
    rw [entryIn_put, entryIn_decoded isDecoded]
  have statuses (k : String) : statusIn (decoded.entries.put (key, entry)) k = statusOf read k := by
    rw [statusIn_eq, statusOf_eq, entries]
    split
    · rename_i isKey
      rw [isKey, found]
      exact congrArg some status
    · rfl
  refine ⟨sound.put got same.sequence formed, ?_, ?_, ?_⟩
  · intro k before isBefore pending
    refine .inl ?_
    show ∃ entry', entryIn (decoded.entries.put (key, entry)) k = some entry' ∧ _
    rw [entries k]
    split
    · rename_i isKey
      obtain rfl := isKey
      obtain rfl := Option.some.inj (found.symm.trans isBefore)
      exact ⟨entry, rfl, status.trans pending, same⟩
    · exact ⟨before, isBefore, pending, .refl before⟩
  · intro k after isAfter pending
    refine .inl ?_
    rw [← statuses k, statusIn_eq]
    have isAfter : entryIn (decoded.entries.put (key, entry)) k = some after := isAfter
    rw [isAfter]
    exact congrArg some pending
  · intro k published
    exact .inl ((statuses k).symm.trans published)

/-- **A completion.** -/
theorem rewrite_completed {key other : String} {existing entry : DedupEntry}
    (isDecoded : decode read = .ok decoded) (migrated : Migrated w)
    (sound : SoundDecoded (layout.shardCapacity index) decoded)
    (got : decoded.entries.get key = some (other, existing))
    (sequence : entry.sequence = existing.sequence) (published : entry.status = .published)
    (formed : FormedEntry key entry) :
    ShardRewrite layout legacy w index read (encode (decoded.revision + 1)
      (layout.shardCapacity index) decoded.nextSequence (decoded.entries.put (key, entry)))
      (.completed key) := by
  have entries (k : String) : entryIn (decoded.entries.put (key, entry)) k =
      if k = key then some entry else entryOf read k := by
    rw [entryIn_put, entryIn_decoded isDecoded]
  refine ⟨sound.put got sequence formed, ?_, ?_, fun _ => .inr (.inl migrated)⟩
  · intro k before isBefore pending
    by_cases isKey : k = key
    · subst isKey
      refine .inr ⟨rfl, migrated, ?_⟩
      show statusIn (decoded.entries.put (k, entry)) k = _
      rw [statusIn_put, if_pos rfl, published]
    · refine .inl ⟨before, ?_, pending, .refl before⟩
      exact (entries k).trans ((if_neg isKey).trans isBefore)
  · intro k after isAfter pending
    have isAfter : entryIn (decoded.entries.put (key, entry)) k = some after := isAfter
    rw [entries k] at isAfter
    split at isAfter
    · obtain rfl := Option.some.inj isAfter
      rw [published] at pending
      cases pending
    refine .inl ?_
    rw [statusOf_eq, isAfter]
    exact congrArg some pending

/-- **A new claim.** -/
theorem rewrite_claimed {journal : HuginnDedupJournal} {request : ClaimRequest} {now : ℤ}
    {kept : DedupEntries} {entry : DedupEntry} (isDecoded : decode read = .ok decoded)
    (migrated : Migrated w) (sound : SoundDecoded (layout.shardCapacity index) decoded)
    (wellFormed : WellFormed (.claim request))
    (absent : decoded.entries.get request.idempotencyKey = none)
    (isFresh : freshEntry journal request now (layout.shardCapacity index) decoded.nextSequence
      decoded.entries = .ok (kept, entry)) :
    ShardRewrite layout legacy w index read (encode (decoded.revision + 1)
      (layout.shardCapacity index) (decoded.nextSequence + 1)
      (kept.put (request.idempotencyKey, entry))) (.claimed request.idempotencyKey) := by
  obtain ⟨⟨count, evicted, -⟩, -⟩ := freshEntry_eq_ok isFresh
  have made : RoomMade decoded.entries kept := roomMade_evictPublished evicted
  have absentRead : entryOf read request.idempotencyKey = none := by
    rw [← entryIn_decoded isDecoded]
    exact entryIn_eq_none.2 absent
  refine ⟨sound.claim absent wellFormed.1 wellFormed.2 isFresh, ?_, ?_, fun _ =>
    .inr (.inl migrated)⟩
  · intro k before isBefore pending
    have apart : k ≠ request.idempotencyKey := by
      rintro rfl
      rw [absentRead] at isBefore
      cases isBefore
    refine .inl ⟨before, ?_, pending, .refl before⟩
    show entryIn (kept.put (request.idempotencyKey, entry)) k = some before
    rw [entryIn_put, if_neg apart]
    refine made.pending ?_ pending
    rw [entryIn_decoded isDecoded]
    exact isBefore
  · intro k after isAfter pending
    have isAfter : entryIn (kept.put (request.idempotencyKey, entry)) k = some after := isAfter
    rw [entryIn_put] at isAfter
    split at isAfter
    · rename_i isKey
      refine .inr ⟨?_, .inl migrated⟩
      rw [isKey, statusOf_eq, absentRead]
      rfl
    refine .inl ?_
    rw [statusOf_eq, ← entryIn_decoded isDecoded, made.fewer isAfter]
    exact congrArg some pending

/-- Entries of the old layout that belong to one shard. -/
def LegacyGroup (layout : DedupLayout) (legacy : Option DedupRecord) (index : ℕ)
    (group : List (String × DedupEntry)) : Prop :=
  ∀ entry ∈ group, layout.shardIndex entry.1 = index ∧
    entryOf legacy entry.1 = some entry.2 ∧ FormedEntry entry.1 entry.2

/-- **A merge.** -/
theorem rewrite_merged {group : List (String × DedupEntry)} {message : String} {last : ℕ}
    {all kept : DedupEntries} (isDecoded : decode read = .ok decoded)
    (sound : SoundDecoded (layout.shardCapacity index) decoded)
    (isGroup : LegacyGroup layout legacy index group)
    (isMerged : mergeEntries group decoded.nextSequence decoded.entries = .ok (last, all))
    (isEvicted : evictPublished message (all.values.length - layout.shardCapacity index) all =
      .ok kept) :
    ShardRewrite layout legacy w index read
      (encode (decoded.revision + 1) (layout.shardCapacity index) last kept) .merged := by
  have merges : Merges group decoded.entries all := merges_mergeEntries isMerged
  have made : RoomMade all kept := roomMade_evictPublished isEvicted
  refine ⟨sound.merge (fun entry isEntry => (isGroup entry isEntry).2.2) isMerged isEvicted,
    ?_, ?_, ?_⟩
  · intro key before isBefore pending
    rw [← entryIn_decoded isDecoded] at isBefore
    exact .inl ⟨before, made.pending (merges.kept isBefore) pending, pending, .refl before⟩
  · intro key after isAfter pending
    rw [statusOf_eq, ← entryIn_decoded isDecoded]
    rcases merges.added (made.fewer isAfter) with same | ⟨absent, old, sequence, isOld, rfl⟩
    · refine .inl ?_
      rw [same]
      exact congrArg some pending
    obtain ⟨own, isLegacy, -⟩ := isGroup _ isOld
    rw [absent]
    exact .inr ⟨rfl, .inr ⟨rfl, own, old, sequence, isLegacy, rfl⟩⟩
  · intro key published
    rw [statusIn_eq] at published
    obtain ⟨after, isAfter, isPublished⟩ := Option.map_eq_some_iff.1 published
    rw [statusOf_eq, ← entryIn_decoded isDecoded]
    rcases merges.added (made.fewer isAfter) with same | ⟨-, old, sequence, isOld, rfl⟩
    · refine .inl ?_
      rw [same]
      exact congrArg some isPublished
    refine .inr (.inr ?_)
    rw [statusOf_eq, (isGroup _ isOld).2.1]
    exact congrArg some isPublished

end

end Fdai.Core.HuginnDedup
