import Fdai.Agents.HuginnCalls

/-!
# A complete key is not handed out again

A claim reads the receipt of a key before it reads the shard, so a key can be completed and
compacted in between; and an entry can be evicted before compaction has written its receipt.
Apart from that a published key stays fenced until its receipt is pruned.

* `DedupOrderly` — the condition on the writes of a run.
* `Fenced` — the invariant: a live key has a receipt or a published entry, and no pending one.
* `dedup_fenced` — every orderly run keeps it, and what its claims return bears it out.
-/

namespace Fdai.Core.HuginnDedup

open Fdai.Providers Fdai.Concurrency Fdai.Sequences Program Discipline Deduping

/-- What an event says about a key. -/
def liveAfter (key : String) (live : Bool) : DedupEvent → Bool
  | .published other => if other = key then true else live
  | .pruned other => if other = key then false else live

/-- A key was published, and its receipt was not pruned since. -/
def Live (log : List DedupEvent) (key : String) : Bool := log.foldl (liveAfter key) false

section

variable {log : List DedupEvent} {key : String} {keys : List String}

theorem live_append_singleton (event : DedupEvent) :
    Live (log ++ [event]) key = liveAfter key (Live log key) event := by
  unfold Live
  rw [List.foldl_append]
  rfl

theorem live_published : Live (log ++ keys.map .published) key = true ↔
    Live log key = true ∨ key ∈ keys := by
  induction keys generalizing log with
  | nil => simp
  | cons other rest ih =>
    rw [List.map_cons, ← List.singleton_append, ← List.append_assoc, ih, live_append_singleton,
      List.mem_cons, liveAfter]
    by_cases same : other = key
    · simp [same]
    · simp [same, Ne.symm same]

/-- Keys whose receipts are pruned are not live any more. -/
theorem live_pruned : Live (log ++ keys.map .pruned) key = true ↔
    Live log key = true ∧ key ∉ keys := by
  induction keys generalizing log with
  | nil => simp
  | cons other rest ih =>
    rw [List.map_cons, ← List.singleton_append, ← List.append_assoc, ih, live_append_singleton,
      List.mem_cons, liveAfter]
    by_cases same : other = key
    · simp [same]
    · simp [same, Ne.symm same]

/-- The last event of a key is that its receipt was pruned. -/
def PrunedSince (log : List DedupEvent) (key : String) : Prop :=
  ∃ before after, log = before ++ .pruned key :: after ∧ .published key ∉ after

theorem prunedSince_of_not_live (published : .published key ∈ log)
    (notLive : Live log key = false) : PrunedSince log key := by
  induction log using List.reverseRecOn with
  | nil => cases published
  | append_singleton log event ih =>
    rw [live_append_singleton] at notLive
    cases event with
    | published other =>
      by_cases same : other = key
      · simp [liveAfter, same] at notLive
      have published : .published key ∈ log := by
        simpa [Ne.symm same] using published
      rw [liveAfter, if_neg same] at notLive
      obtain ⟨before, after, rfl, none⟩ := ih published notLive
      refine ⟨before, after ++ [.published other], by simp, ?_⟩
      simp [none, Ne.symm same]
    | pruned other =>
      by_cases same : other = key
      · subst same
        exact ⟨log, [], rfl, List.not_mem_nil⟩
      have published : .published key ∈ log := by simpa using published
      rw [liveAfter, if_neg same] at notLive
      obtain ⟨before, after, rfl, none⟩ := ih published notLive
      refine ⟨before, after ++ [.pruned other], by simp, ?_⟩
      simp [none]

end

/-! ## Statuses -/

def statusIn (entries : DedupEntries) (key : String) : Option DedupStatus :=
  (entries.get key).map fun entry => entry.2.status

@[simp] theorem statusOf_some (record : DedupRecord) (key : String) :
    statusOf (some record) key = statusIn record.entries key := rfl

section

variable {entries : DedupEntries} {key other : String} {entry : DedupEntry}

theorem statusIn_put : statusIn (entries.put (other, entry)) key =
    if key = other then some entry.status else statusIn entries key := by
  unfold statusIn
  rw [Keyed.get_put]
  split
  · rfl
  · rfl

theorem statusIn_of_mem (stored : (key, entry) ∈ entries.values) :
    statusIn entries key = some entry.status := by
  have found : entries.get key = some (key, entry) := Keyed.get_of_mem stored
  rw [statusIn, found]
  rfl

theorem mem_of_statusIn {status : DedupStatus} (found : statusIn entries key = some status) :
    ∃ entry, (key, entry) ∈ entries.values ∧ entry.status = status := by
  obtain ⟨⟨other, entry⟩, got, same⟩ := Option.map_eq_some_iff.1 found
  obtain rfl : other = key := Keyed.key_of_get got
  exact ⟨entry, Keyed.mem_of_get got, same⟩

/-- Entries that are kept by a property of theirs. -/
theorem statusIn_filter (p : String × DedupEntry → Bool) : statusIn (entries.filter p) key = none ∨
      statusIn (entries.filter p) key = statusIn entries key := by
  rcases kept : statusIn (entries.filter p) key with _ | status
  · exact .inl rfl
  obtain ⟨entry, stored, same⟩ := mem_of_statusIn kept
  rw [statusIn_of_mem (List.mem_of_mem_filter stored), same]
  exact .inr rfl

theorem statusIn_eq_none (absent : ∀ entry, (key, entry) ∉ entries.values) :
    statusIn entries key = none := by
  rcases found : statusIn entries key with _ | status
  · rfl
  obtain ⟨entry, stored, -⟩ := mem_of_statusIn found
  exact absurd stored (absent entry)

theorem statusIn_filter_of_kept {p : String × DedupEntry → Bool}
    (kept : ∀ entry, (key, entry) ∈ entries.values → p (key, entry) = true) :
    statusIn (entries.filter p) key = statusIn entries key := by
  cases found : statusIn entries key with
  | none =>
    have kept : statusIn (entries.filter p) key = none ∨
        statusIn (entries.filter p) key = statusIn entries key := statusIn_filter p
    rcases kept with none | same
    · exact none
    · rw [same, found]
  | some status =>
    obtain ⟨entry, stored, rfl⟩ := mem_of_statusIn found
    exact statusIn_of_mem (List.mem_filter.2 ⟨stored, kept entry stored⟩)

/-- **What is newly published** by a write. -/
theorem mem_newlyPublished {old : Option DedupRecord} {new : DedupRecord} :
    key ∈ newlyPublished old new ↔
      statusIn new.entries key = some .published ∧ statusOf old key ≠ some .published := by
  unfold newlyPublished publishedEntries
  constructor
  · intro isNew
    obtain ⟨⟨other, entry⟩, kept, rfl⟩ := List.mem_map.1 isNew
    obtain ⟨stored, fresh⟩ := List.mem_filter.1 kept
    obtain ⟨stored, published⟩ := List.mem_filter.1 stored
    refine ⟨?_, by simpa using fresh⟩
    rw [statusIn_of_mem stored]
    exact congrArg some (by simpa using published)
  · rintro ⟨published, fresh⟩
    obtain ⟨entry, stored, same⟩ := mem_of_statusIn published
    refine List.mem_map.2 ⟨(key, entry), ?_, rfl⟩
    refine List.mem_filter.2 ⟨List.mem_filter.2 ⟨stored, by simpa using same⟩, ?_⟩
    simpa using fresh

end

/-- An entry becomes pending only while its key has no receipt, and a published one that is
live is dropped only once its receipt is stored. -/
def FencedWrite (w : DedupWorld) (old : Option DedupRecord) (new : DedupRecord) : Prop :=
  (∀ entry ∈ new.entries.values, entry.2.status = .pending → statusOf old entry.1 = none →
    w.receipt entry.1 = none) ∧
  ∀ record ∈ old, ∀ entry ∈ record.entries.values, entry.2.status = .published →
    statusIn new.entries entry.1 = none → Live w.log entry.1 = true →
      (w.receipt entry.1).isSome = true

/-- The old layout is emptied only while each of its published entries that is live has a
receipt, or its entry is in its shard. -/
def FencedMigration (layout : DedupLayout) (w : DedupWorld) (old : Option DedupRecord) : Prop :=
  ∀ record ∈ old, ∀ entry ∈ record.entries.values, entry.2.status = .published →
    Live w.log entry.1 = true → (w.receipt entry.1).isSome = true ∨
      statusOf (w.record (.shard (layout.shardIndex entry.1))) entry.1 ≠ none

/-- The condition on a write of a record that takes effect. -/
def OrderlyWrite (layout : DedupLayout) (w : DedupWorld) (place : Place) (value : DedupRecord) :
    DedupWrite → Prop
  | .claimed _ | .merged => FencedWrite w (w.record place) value
  | .migrated => FencedMigration layout w (w.record place)
  | .changed | .completed _ | .compacted => True

/-- The condition on a call. -/
def DedupOrderly (layout : DedupLayout) (w : DedupWorld) : DedupOp → Prop
  | .writeEntriesIfAbsent place value why =>
    w.record place = none → OrderlyWrite layout w place value why
  | .compareAndSetEntries place value expectedRevision why =>
    (∃ record ∈ w.record place, record.revision = expectedRevision) →
      OrderlyWrite layout w place value why
  | _ => True

instance (w : DedupWorld) (old : Option DedupRecord) (new : DedupRecord) :
    Decidable (FencedWrite w old new) := by
  unfold FencedWrite
  infer_instance

instance (layout : DedupLayout) (w : DedupWorld) (old : Option DedupRecord) :
    Decidable (FencedMigration layout w old) := by
  unfold FencedMigration
  infer_instance

instance (layout : DedupLayout) (w : DedupWorld) (place : Place) (value : DedupRecord)
    (why : DedupWrite) : Decidable (OrderlyWrite layout w place value why) := by
  cases why <;> dsimp only [OrderlyWrite] <;> infer_instance

instance (layout : DedupLayout) (w : DedupWorld) (op : DedupOp) :
    Decidable (DedupOrderly layout w op) := by
  cases op <;> dsimp only [DedupOrderly] <;> infer_instance

/-! ## The invariant -/

def DedupWorld.shardStatus (layout : DedupLayout) (w : DedupWorld) (key : String) :
    Option DedupStatus :=
  statusOf (w.record (.shard (layout.shardIndex key))) key

/-- The old layout holds no entry any more. -/
def Migrated (w : DedupWorld) : Prop := ∀ key, statusOf (w.record .legacy) key = none

/-- A live key has a receipt, or its entry is published. -/
def Settled (layout : DedupLayout) (w : DedupWorld) (key : String) : Prop :=
  Live w.log key = true → (w.receipt key).isSome = true ∨ w.shardStatus layout key = some .published

/-- **The fence.** -/
structure Fenced (layout : DedupLayout) (w : DedupWorld) : Prop where
  settled : ∀ key, statusOf (w.record .legacy) key = some .published ∨ Settled layout w key
  pending : ∀ key, w.shardStatus layout key = some .pending → Live w.log key = false
  recorded : ∀ key, (w.receipt key).isSome = true → .published key ∈ w.log
  logged : ∀ index key, statusOf (w.record (.shard index)) key = some .published →
    .published key ∈ w.log
  migrated : ∀ owner, w.migrated owner = true → Migrated w

/-- Nothing is stored yet. -/
theorem fenced_empty (layout : DedupLayout) : Fenced layout {} where
  settled _ := .inr fun live => by cases live
  pending _ _ := rfl
  recorded _ stored := by cases stored
  logged _ _ published := by cases published
  migrated _ flag := by cases flag

def Change (layout : DedupLayout) (w : DedupWorld) (old : Option DedupRecord)
    (new : DedupRecord) : Place → DedupWrite → Prop
  | .legacy, .migrated => ∀ key, statusIn new.entries key = none
  | .shard _, .changed => ∀ key, statusIn new.entries key = statusOf old key
  | .shard index, .completed key => layout.shardIndex key = index ∧
      statusOf old key = some .pending ∧ ∀ other, statusIn new.entries other =
        if other = key then some .published else statusOf old other
  | .shard index, .compacted => ∀ key, statusIn new.entries key = statusOf old key ∨
      statusIn new.entries key = none ∧ (layout.shardIndex key = index →
        Live w.log key = true → (w.receipt key).isSome = true)
  | .shard index, .claimed key => layout.shardIndex key = index ∧ Migrated w ∧
      statusOf old key = none ∧ statusIn new.entries key = some .pending ∧
      ∀ other ≠ key, statusIn new.entries other = statusOf old other ∨
        statusOf old other = some .published ∧ statusIn new.entries other = none
  | .shard index, .merged => ∀ key, statusIn new.entries key = statusOf old key ∨
      (statusOf old key = some .published ∧ statusIn new.entries key = none) ∨
      (statusOf old key = none ∧ layout.shardIndex key = index ∧
        (statusIn new.entries key = some .pending →
          statusOf (w.record .legacy) key ≠ some .published))
  | _, _ => False

section

variable {layout : DedupLayout} {w : DedupWorld} {place : Place} {value : DedupRecord}
  {why : DedupWrite} {key : String} {index : ℕ}

/-- What a write to a shard says about a key, in the terms of the invariant. -/
structure ShardChange (layout : DedupLayout) (w : DedupWorld) (index : ℕ)
    (old : Option DedupRecord) (new : DedupRecord) (key : String) : Prop where
  /-- Only an entry of this shard is newly published. -/
  own : statusIn new.entries key = some .published → statusOf old key ≠ some .published →
    layout.shardIndex key = index
  /-- A published entry of this shard stays, unless its key is settled otherwise. -/
  kept : layout.shardIndex key = index → statusOf old key = some .published →
    Live w.log key = true →
      statusIn new.entries key = some .published ∨ (w.receipt key).isSome = true
  /-- An entry that becomes pending in this shard has a key that is not live. -/
  fresh : layout.shardIndex key = index → statusIn new.entries key = some .pending →
    statusOf old key = some .pending ∨ Live w.log key = false

section

variable {old : Option DedupRecord}

theorem ShardChange.of_same (same : statusIn value.entries key = statusOf old key) :
    ShardChange layout w index old value key where
  own published notYet := absurd (same.symm.trans published) notYet
  kept _ published _ := .inl (same.trans published)
  fresh _ pending := .inl (same.symm.trans pending)

/-- A write that drops the entry of the key: if the key is live, it has a receipt. -/
theorem ShardChange.of_gone (gone : statusIn value.entries key = none)
    (receipt : layout.shardIndex key = index → Live w.log key = true →
      (w.receipt key).isSome = true) : ShardChange layout w index old value key where
  own published _ := by
    rw [gone] at published
    cases published
  kept own _ live := .inr (receipt own live)
  fresh _ pending := by
    rw [gone] at pending
    cases pending

/-- A write that adds an entry of this shard: if the entry is pending, its key is not live. -/
theorem ShardChange.of_new (own : layout.shardIndex key = index) (new : statusOf old key = none)
    (notLive : statusIn value.entries key = some .pending → Live w.log key = false) :
    ShardChange layout w index old value key where
  own _ _ := own
  kept _ published _ := by
    rw [new] at published
    cases published
  fresh _ pending := .inr (notLive pending)

end

/-- **A write to a shard**, key by key. -/
theorem shardChange (fenced : Fenced layout w)
    (change : Change layout w (w.record (.shard index)) value (.shard index) why)
    (orderly : OrderlyWrite layout w (.shard index) value why) (key : String) :
    ShardChange layout w index (w.record (.shard index)) value key := by
  -- a key that has no entry in its shard and no receipt is not live
  have absent (own : layout.shardIndex key = index)
      (absent : statusOf (w.record (.shard index)) key = none) (noReceipt : w.receipt key = none)
      (notLegacy : statusOf (w.record .legacy) key ≠ some .published) :
      Live w.log key = false := by
    rcases fenced.settled key with legacy | settled
    · exact absurd legacy notLegacy
    by_contra live
    rcases settled (Bool.not_eq_false _ ▸ live) with receipt | published
    · rw [noReceipt] at receipt
      cases receipt
    · rw [DedupWorld.shardStatus, own, absent] at published
      cases published
  have dropped (isFenced : FencedWrite w (w.record (.shard index)) value)
      (published : statusOf (w.record (.shard index)) key = some .published)
      (gone : statusIn value.entries key = none) (live : Live w.log key = true) :
      (w.receipt key).isSome = true := by
    cases stored : w.record (.shard index) with
    | none =>
      rw [stored] at published
      cases published
    | some record =>
      rw [stored] at published
      obtain ⟨entry, isEntry, same⟩ := mem_of_statusIn published
      exact isFenced.2 record stored (key, entry) isEntry same gone live
  have added (isFenced : FencedWrite w (w.record (.shard index)) value)
      (pending : statusIn value.entries key = some .pending)
      (new : statusOf (w.record (.shard index)) key = none) : w.receipt key = none := by
    obtain ⟨entry, isEntry, same⟩ := mem_of_statusIn pending
    exact isFenced.1 (key, entry) isEntry same new
  cases why with
  | migrated => exact change.elim
  | changed => exact .of_same (change key)
  | completed done =>
    obtain ⟨own, wasPending, changed⟩ := change
    by_cases same : key = done
    · subst same
      have published : statusIn value.entries key = some .published := by
        rw [changed, if_pos rfl]
      exact ⟨fun _ _ => own, fun _ _ _ => .inl published, fun _ _ => .inl wasPending⟩
    · exact .of_same (by rw [changed, if_neg same])
  | compacted =>
    rcases change key with same | ⟨gone, receipt⟩
    · exact .of_same same
    · exact .of_gone gone receipt
  | claimed claimed =>
    obtain ⟨own, migrated, new, isPending, others⟩ := change
    by_cases same : key = claimed
    · subst same
      exact .of_new own new fun pending =>
        absent own new (added orderly pending new) (by rw [migrated]; simp)
    rcases others key same with kept | ⟨was, gone⟩
    · exact .of_same kept
    · exact .of_gone gone fun _ live => dropped orderly was gone live
  | merged =>
    rcases change key with same | ⟨was, gone⟩ | ⟨new, own, notLegacy⟩
    · exact .of_same same
    · exact .of_gone gone fun _ live => dropped orderly was gone live
    · exact .of_new own new fun pending =>
        absent own new (added orderly pending new) (notLegacy pending)

/-! ### Steps -/

/-- The calls a journal may make. -/
def DedupPermit (layout : DedupLayout) (w : DedupWorld) : DedupOp → Prop
  | .writeEntriesIfAbsent place value why =>
    w.record place = none → Change layout w none value place why
  | .compareAndSetEntries place value expectedRevision why =>
    ∀ stored, w.record place = some stored → stored.revision = expectedRevision →
      Change layout w (some stored) value place why ∧ value.revision = expectedRevision + 1
  | .writeTerminalIfAbsent key _ => .published key ∈ w.log
  | .setMigrated _ => Migrated w
  | _ => True

/-- What a permitted and orderly call does to the world. -/
inductive DedupStep (layout : DedupLayout) (w : DedupWorld) : DedupWorld → Prop
  /-- At most a receipt of a published key is new. -/
  | quiet {w' : DedupWorld} (records : w'.records = w.records) (log : w'.log = w.log)
      (migrated : w'.migrated = w.migrated)
      (keeps : ∀ key, (w.receipt key).isSome = true → (w'.receipt key).isSome = true)
      (adds : ∀ key, (w'.receipt key).isSome = true →
        (w.receipt key).isSome = true ∨ .published key ∈ w.log) : DedupStep layout w w'
  | pruned {w' : DedupWorld} (gone : List String) (records : w'.records = w.records)
      (log : w'.log = w.log ++ gone.map .pruned) (migrated : w'.migrated = w.migrated)
      (receipts : ∀ key, w'.receipt key = if key ∈ gone then none else w.receipt key) :
      DedupStep layout w w'
  | migrated (owner : ℕ) (isMigrated : Migrated w) :
      DedupStep layout w { w with migrated := Function.update w.migrated owner true }
  | stored {place : Place} {value : DedupRecord} {why : DedupWrite}
      (change : Change layout w (w.record place) value place why)
      (orderly : OrderlyWrite layout w place value why)
      (raises : ∀ old ∈ w.record place, old.revision < value.revision) :
      DedupStep layout w (w.stored place value)

variable {w' : DedupWorld}

theorem DedupStep.same (records : w'.records = w.records) (terminals : w'.terminals = w.terminals)
    (log : w'.log = w.log) (migrated : w'.migrated = w.migrated) : DedupStep layout w w' := by
  have receipts (key : String) : w'.receipt key = w.receipt key := by
    unfold DedupWorld.receipt
    rw [terminals]
  refine .quiet records log migrated (fun key stored => ?_) fun key stored => .inl ?_
  · rw [receipts key]
    exact stored
  · rw [← receipts key]
    exact stored

/-- **What one call can do.** -/
theorem dedupStep {op : DedupOp} {a : op.Ans} (allowed : DedupPermit layout w op)
    (answered : (dedupMachine layout).Answers (DedupOrderly layout) w op a w') :
    DedupStep layout w w' := by
  obtain ⟨orderly, now, performed⟩ := answered
  obtain ⟨-, rfl⟩ := Prod.mk.inj performed
  cases op with
  | now | readEntries | readTerminal | isMigrated | isCompacted | setCompacted =>
    exact .same rfl rfl rfl rfl
  | countCompletion owner pruneInterval =>
    change DedupStep layout w (DedupWorld.perform now w (.countCompletion owner pruneInterval)).2
    unfold DedupWorld.perform
    dsimp only
    split
    · exact .same rfl rfl rfl rfl
    · exact .same rfl rfl rfl rfl
  | setMigrated owner => exact .migrated owner allowed
  | deleteTerminalsBeyond retainNewest =>
    exact .pruned _ rfl rfl rfl fun key => StateStore.read_deleteBeyond key
  | writeEntriesIfAbsent place value why =>
    change DedupStep layout w
      (if (w.records.writeIfAbsent place value).1 then w.stored place value else w)
    rcases written : w.records.writeIfAbsent place value with ⟨isStored, store⟩
    rcases StateStore.writeIfAbsent_cases written with ⟨rfl, -, -⟩ | ⟨rfl, absent, -⟩
    · exact .same rfl rfl rfl rfl
    have absent : w.record place = none := absent
    refine .stored ?_ (orderly absent) fun old isOld => ?_
    · rw [absent]
      exact allowed absent
    · rw [absent] at isOld
      cases isOld
  | compareAndSetEntries place value expectedRevision why =>
    change DedupStep layout w
      (if (w.records.compareAndSet (fun _ record => record.revision) place value
          expectedRevision).1 then w.stored place value else w)
    rcases written : w.records.compareAndSet (fun _ record => record.revision) place value
      expectedRevision with ⟨isStored, store⟩
    rcases StateStore.compareAndSet_cases written with
      ⟨rfl, -⟩ | ⟨rfl, -, stored, found, current⟩
    · exact .same rfl rfl rfl rfl
    have found : w.record place = some stored := found
    obtain ⟨change, raised⟩ := allowed stored found current
    refine .stored ?_ (orderly ⟨stored, found, current⟩) fun old isOld => ?_
    · rw [found]
      exact change
    · obtain rfl := Option.some.inj (found.symm.trans isOld)
      omega
  | writeTerminalIfAbsent key value =>
    rcases written : w.terminals.writeIfAbsent key value with ⟨isStored, terminals⟩
    have performed : (DedupWorld.perform now w (.writeTerminalIfAbsent key value)).2 =
        { w with terminals } := by
      simp only [DedupWorld.perform, written]
    change DedupStep layout w (DedupWorld.perform now w (.writeTerminalIfAbsent key value)).2
    rw [performed]
    rcases StateStore.writeIfAbsent_cases written with ⟨-, rfl, -⟩ | ⟨-, -, rfl⟩
    · exact .same rfl rfl rfl rfl
    refine .quiet rfl rfl rfl (fun other stored => ?_) fun other stored => ?_
    · by_cases same : other = key
      · subst same
        change ((w.terminals.write other value).read other).isSome = true
        rw [StateStore.read_write_self]
        rfl
      change ((w.terminals.write key value).read other).isSome = true
      rw [StateStore.read_write_ne _ same]
      exact stored
    · by_cases same : other = key
      · subst same
        exact .inr allowed
      change ((w.terminals.write key value).read other).isSome = true at stored
      rw [StateStore.read_write_ne _ same] at stored
      exact .inl stored
  | compareAndSetTerminal key value expectedRevision =>
    rcases written : w.terminals.compareAndSet (fun _ receipt => receipt.revision) key value
      expectedRevision with ⟨isStored, terminals⟩
    have performed :
        (DedupWorld.perform now w (.compareAndSetTerminal key value expectedRevision)).2 =
          { w with terminals } := by
      simp only [DedupWorld.perform, written]
    change DedupStep layout w
      (DedupWorld.perform now w (.compareAndSetTerminal key value expectedRevision)).2
    rw [performed]
    rcases StateStore.compareAndSet_cases written with ⟨-, rfl⟩ | ⟨-, rfl, receipt, found, -⟩
    · exact .same rfl rfl rfl rfl
    -- a receipt only ever gets another digest
    have receipts (other : String) :
        ((w.terminals.write key value).read other).isSome = (w.receipt other).isSome := by
      by_cases same : other = key
      · subst same
        rw [StateStore.read_write_self, DedupWorld.receipt, found]
        rfl
      · rw [StateStore.read_write_ne _ same]
    refine .quiet rfl rfl rfl (fun other stored => ?_) fun other stored => .inl ?_
    · exact (receipts other).trans stored
    · exact (receipts other).symm.trans stored

/-! ### What a step keeps -/

theorem live_stored : Live (w.stored (.shard index) value).log key = true ↔
    Live w.log key = true ∨ (statusIn value.entries key = some .published ∧
      statusOf (w.record (.shard index)) key ≠ some .published) := by
  change Live (w.log ++ (newlyPublished (w.record (.shard index)) value).map .published) key =
    true ↔ _
  rw [live_published, mem_newlyPublished]

theorem DedupStep.log_grows (step : DedupStep layout w w') : w.log <+: w'.log := by
  cases step with
  | quiet _ log => exact ⟨[], by rw [log, List.append_nil]⟩
  | pruned gone _ log => exact ⟨gone.map .pruned, log.symm⟩
  | migrated => exact List.prefix_rfl
  | @stored place value _ _ _ _ =>
    cases place with
    | legacy => exact List.prefix_rfl
    | shard index => exact List.prefix_append _ _

theorem shardStatus_stored : (w.stored (.shard index) value).shardStatus layout key =
    if layout.shardIndex key = index then statusIn value.entries key
    else w.shardStatus layout key := by
  unfold DedupWorld.shardStatus
  by_cases own : layout.shardIndex key = index
  · rw [if_pos own, own, record_stored]
    rfl
  · rw [if_neg own, record_stored_ne fun same => own (Place.shard.inj same)]

/-- **A settled key stays settled.** -/
theorem Settled.step (settled : Settled layout w key) (fenced : Fenced layout w)
    (step : DedupStep layout w w') : Settled layout w' key := by
  intro live
  cases step with
  | quiet records log _ keeps =>
    rw [log] at live
    rcases settled live with receipt | published
    · exact .inl (keeps key receipt)
    refine .inr ?_
    rw [DedupWorld.shardStatus, record_of_records records]
    exact published
  | pruned gone records log _ receipts =>
    rw [log, live_pruned] at live
    rcases settled live.1 with receipt | published
    · refine .inl ?_
      rw [receipts, if_neg live.2]
      exact receipt
    refine .inr ?_
    rw [DedupWorld.shardStatus, record_of_records records]
    exact published
  | migrated => exact settled live
  | @stored place value why change orderly _ =>
    cases place with
    | legacy =>
      rcases settled live with receipt | published
      · exact .inl receipt
      refine .inr ?_
      rw [DedupWorld.shardStatus, record_stored_ne (by simp)]
      exact published
    | shard index =>
      have changed := shardChange fenced change orderly key
      rw [shardStatus_stored]
      rcases live_stored.1 live with live | ⟨published, notYet⟩
      · rcases settled live with receipt | published
        · exact .inl receipt
        by_cases own : layout.shardIndex key = index
        · rw [if_pos own]
          rw [DedupWorld.shardStatus, own] at published
          exact (changed.kept own published live).symm
        · rw [if_neg own]
          exact .inr published
      · rw [if_pos (changed.own published notYet)]
        exact .inr published

theorem Migrated.step (migrated : Migrated w) (step : DedupStep layout w w') : Migrated w' := by
  intro key
  cases step with
  | quiet records | pruned _ records =>
    rw [record_of_records records]
    exact migrated key
  | migrated => exact migrated key
  | @stored place value why change _ _ =>
    cases place with
    | legacy =>
      cases why with
      | migrated =>
        rw [record_stored]
        exact change key
      | claimed | changed | completed | compacted | merged => exact change.elim
    | shard index =>
      rw [record_stored_ne (by simp)]
      exact migrated key

theorem Fenced.settled_step (fenced : Fenced layout w) (step : DedupStep layout w w') (key : String) :
    statusOf (w'.record .legacy) key = some .published ∨ Settled layout w' key := by
  rcases fenced.settled key with legacy | settled
  · cases step with
    | quiet records | pruned _ records =>
      rw [record_of_records records]
      exact .inl legacy
    | migrated => exact .inl legacy
    | @stored place value why change orderly _ =>
      cases place with
      | shard index =>
        rw [record_stored_ne (by simp)]
        exact .inl legacy
      | legacy =>
        cases why with
        | claimed | changed | completed | compacted | merged => exact change.elim
        | migrated =>
          refine .inr fun live => ?_
          rw [DedupWorld.shardStatus, record_stored_ne (by simp)]
          have live : Live w.log key = true := live
          rcases stored : w.record .legacy with _ | record
          · rw [stored] at legacy
            cases legacy
          rw [stored] at legacy
          obtain ⟨entry, isEntry, same⟩ := mem_of_statusIn legacy
          rcases orderly record stored (key, entry) isEntry same live with
            receipt | inShard
          · exact .inl receipt
          -- an entry that is pending would not be live
          cases status : w.shardStatus layout key with
          | none => exact absurd status inShard
          | some status' => cases status' with
            | published => exact .inr status
            | pending =>
              rw [fenced.pending key status] at live
              cases live
  · exact .inr (settled.step fenced step)

theorem Fenced.pending_step (fenced : Fenced layout w) (step : DedupStep layout w w')
    (pending : w'.shardStatus layout key = some .pending) : Live w'.log key = false := by
  cases step with
  | quiet records log =>
    rw [log]
    rw [DedupWorld.shardStatus, record_of_records records] at pending
    exact fenced.pending key pending
  | pruned gone records log =>
    rw [DedupWorld.shardStatus, record_of_records records] at pending
    by_contra live
    rw [log] at live
    have before := (live_pruned.1 (Bool.not_eq_false _ ▸ live)).1
    rw [fenced.pending key pending] at before
    cases before
  | migrated => exact fenced.pending key pending
  | @stored place value why change orderly _ =>
    cases place with
    | legacy =>
      rw [DedupWorld.shardStatus, record_stored_ne (by simp)] at pending
      exact fenced.pending key pending
    | shard index =>
      have changed := shardChange fenced change orderly key
      rw [shardStatus_stored] at pending
      by_contra live
      rcases live_stored.1 (Bool.not_eq_false _ ▸ live) with live | ⟨published, notYet⟩
      · split at pending
        · rename_i own
          rcases changed.fresh own pending with was | notLive
          · have was : w.shardStatus layout key = some .pending := by
              rw [DedupWorld.shardStatus, own]
              exact was
            rw [fenced.pending key was] at live
            cases live
          · rw [notLive] at live
            cases live
        · rw [fenced.pending key pending] at live
          cases live
      · rw [if_pos (changed.own published notYet), published] at pending
        cases pending

theorem Fenced.recorded_step (fenced : Fenced layout w) (step : DedupStep layout w w')
    (receipt : (w'.receipt key).isSome = true) : .published key ∈ w'.log := by
  have grows {event : DedupEvent} (known : event ∈ w.log) : event ∈ w'.log :=
    step.log_grows.subset known
  cases step with
  | quiet _ _ _ _ adds =>
    rcases adds key receipt with old | logged
    · exact grows (fenced.recorded key old)
    · exact grows logged
  | pruned gone _ _ _ receipts =>
    rw [receipts] at receipt
    split at receipt
    · cases receipt
    · exact grows (fenced.recorded key receipt)
  | migrated => exact fenced.recorded key receipt
  | stored => exact grows (fenced.recorded key receipt)

theorem Fenced.logged_step (fenced : Fenced layout w) (step : DedupStep layout w w')
    (published : statusOf (w'.record (.shard index)) key = some .published) :
    .published key ∈ w'.log := by
  have grows {event : DedupEvent} (known : event ∈ w.log) : event ∈ w'.log :=
    step.log_grows.subset known
  cases step with
  | quiet records | pruned _ records =>
    rw [record_of_records records] at published
    exact grows (fenced.logged index key published)
  | migrated => exact fenced.logged index key published
  | @stored place value why change orderly _ =>
    by_cases same : Place.shard index = place
    · subst same
      rw [record_stored] at published
      by_cases already : statusOf (w.record (.shard index)) key = some .published
      · exact grows (fenced.logged index key already)
      · refine List.mem_append_right _ (List.mem_map_of_mem ?_)
        exact mem_newlyPublished.2 ⟨published, already⟩
    · rw [record_stored_ne same] at published
      exact grows (fenced.logged index key published)

theorem Fenced.migrated_step (fenced : Fenced layout w) (step : DedupStep layout w w') {owner : ℕ}
    (flag : w'.migrated owner = true) : Migrated w' := by
  have before : Migrated w := by
    cases step with
    | quiet _ _ migrated | pruned _ _ _ migrated =>
      rw [migrated] at flag
      exact fenced.migrated owner flag
    | migrated _ isMigrated => exact isMigrated
    | stored => exact fenced.migrated owner flag
  exact before.step step

/-- **The fence stands** after every step. -/
theorem Fenced.step (fenced : Fenced layout w) (step : DedupStep layout w w') :
    Fenced layout w' where
  settled := fenced.settled_step step
  pending _ := fenced.pending_step step
  recorded _ := fenced.recorded_step step
  logged _ _ := fenced.logged_step step
  migrated _ := fenced.migrated_step step

end

/-! ## The discipline -/

/-- Journals over one store, as replicas that keep to `DedupPermit`. -/
def dedupDiscipline (layout : DedupLayout) : Discipline DedupOp DedupOp.Ans DedupWorld where
  permit _ := DedupPermit layout
  answers := (dedupMachine layout).Answers (DedupOrderly layout)
  inv := Fenced layout
  kept allowed answered fenced := fenced.step (dedupStep allowed answered)

/-- The record that was read is still stored, or one of a later revision is. -/
def ReadAt (place : Place) (read : Option DedupRecord) (w : DedupWorld) : Prop :=
  ∀ r ∈ read, ∃ stored, w.record place = some stored ∧ (stored = r ∨ r.revision < stored.revision)

/-- The old layout is as it was read, or it is empty. -/
def LegacyAt (read : Option DedupRecord) (w : DedupWorld) : Prop :=
  w.record .legacy = read ∨ Migrated w

/-- Once a record of a shard was read: while it is stored, a live key of the shard has a
receipt. -/
def Receipted (layout : DedupLayout) (index : ℕ) (read : DedupRecord) (key : String)
    (w : DedupWorld) : Prop :=
  ∃ stored, w.record (.shard index) = some stored ∧ (read.revision < stored.revision ∨
    stored = read ∧ (layout.shardIndex key = index → Live w.log key = true →
      (w.receipt key).isSome = true))

section

variable (layout : DedupLayout)

theorem stable_migrated : (dedupDiscipline layout).Stable Migrated :=
  fun _ _ _ _ _ _ allowed answered migrated => migrated.step (dedupStep allowed answered)

theorem stable_logged (event : DedupEvent) :
    (dedupDiscipline layout).Stable fun w => event ∈ w.log :=
  fun _ _ _ _ _ _ allowed answered known =>
    (dedupStep allowed answered).log_grows.subset known

theorem stable_readAt (place : Place) (read : Option DedupRecord) :
    (dedupDiscipline layout).Stable (ReadAt place read) := by
  intro replica w op a w' _ allowed answered known r isRead
  obtain ⟨stored, found, state⟩ := known r isRead
  cases dedupStep allowed answered with
  | quiet records | pruned _ records =>
    rw [record_of_records records]
    exact ⟨stored, found, state⟩
  | migrated => exact ⟨stored, found, state⟩
  | @stored other value why _ _ raises =>
    by_cases same : place = other
    · subst same
      refine ⟨value, record_stored, .inr ?_⟩
      have raised := raises stored found
      rcases state with rfl | later
      · exact raised
      · exact later.trans raised
    · rw [record_stored_ne same]
      exact ⟨stored, found, state⟩

theorem stable_legacyAt (read : Option DedupRecord) :
    (dedupDiscipline layout).Stable (LegacyAt read) := by
  intro replica w op a w' _ allowed answered known
  have step := dedupStep allowed answered
  rcases known with same | migrated
  · cases step with
    | quiet records | pruned _ records =>
      refine .inl ?_
      rw [record_of_records records]
      exact same
    | migrated => exact .inl same
    | @stored place value why change _ _ =>
      cases place with
      | shard index =>
        rw [LegacyAt, record_stored_ne (by simp)]
        exact .inl same
      | legacy =>
        cases why with
        | claimed | changed | completed | compacted | merged => exact change.elim
        | migrated =>
          refine .inr fun key => ?_
          rw [record_stored]
          exact change key
  · exact .inr (migrated.step step)

theorem stable_receipted (index : ℕ) (read : DedupRecord) (key : String) :
    (dedupDiscipline layout).Stable (Receipted layout index read key) := by
  rintro replica w op a w' fenced allowed answered ⟨stored, found, state⟩
  cases dedupStep allowed answered with
  | quiet records log _ keeps =>
    refine ⟨stored, ?_, state.imp_right fun ⟨same, receipted⟩ => ⟨same, fun own live => ?_⟩⟩
    · rw [record_of_records records]
      exact found
    · rw [log] at live
      exact keeps key (receipted own live)
  | pruned gone records log _ receipts =>
    refine ⟨stored, ?_, state.imp_right fun ⟨same, receipted⟩ => ⟨same, fun own live => ?_⟩⟩
    · rw [record_of_records records]
      exact found
    · rw [log, live_pruned] at live
      rw [receipts, if_neg live.2]
      exact receipted own live.1
  | migrated => exact ⟨stored, found, state⟩
  | @stored place value why change orderly raises =>
    by_cases same : Place.shard index = place
    · subst same
      have raised := raises stored found
      refine ⟨value, record_stored, .inl ?_⟩
      rcases state with later | ⟨rfl, -⟩
      · exact later.trans raised
      · exact raised
    · refine ⟨stored, by rw [record_stored_ne same]; exact found,
        state.imp_right fun ⟨isRead, receipted⟩ => ⟨isRead, fun own live => ?_⟩⟩
      cases place with
      | legacy => exact receipted own live
      | shard other =>
        rcases live_stored.1 live with live | ⟨published, notYet⟩
        · exact receipted own live
        -- a key of this shard is not published in another one
        have foreign := (shardChange fenced change orderly key).own published notYet
        rw [own] at foreign
        exact absurd (congrArg Place.shard foreign) same

end

section

variable {layout : DedupLayout} {me : ℕ} {F : DedupWorld → Prop} {α β : Type}
  {goal : α → DedupWorld → Prop}

/-- A program that keeps to the discipline, and what it returns with. -/
abbrev Meets (layout : DedupLayout) (me : ℕ) (F : DedupWorld → Prop) (p : Deduping α)
    (goal : α → DedupWorld → Prop) : Prop :=
  (dedupDiscipline layout).Triple me F p (Returns goal)

theorem meets_of_true {p : Deduping α} (meets : Meets layout me (fun _ => True) p goal) :
    Meets layout me F p goal := meets.pre fun _ _ _ => trivial

theorem answered_fence (layout : DedupLayout) : Answered (dedupDiscipline layout) :=
  fun _ _ _ _ answered => answered.2

/-- Calls beside the records are permitted. -/
theorem permits_aside {op : DedupOp} (aside : Aside op) (w : DedupWorld) :
    DedupPermit layout w op := by
  cases op with
  | readTerminal | compareAndSetTerminal | deleteTerminalsBeyond | isCompacted | setCompacted
  | countCompletion => trivial
  | now | readEntries | writeEntriesIfAbsent | compareAndSetEntries | writeTerminalIfAbsent
  | isMigrated | setMigrated => exact aside.elim

variable {place : Place} {w : DedupWorld}

theorem ReadAt.same {r stored : DedupRecord}
    (isRead : ReadAt place (some r) w) (found : w.record place = some stored)
    (current : stored.revision = r.revision) : stored = r := by
  obtain ⟨stored', found', state⟩ := isRead r rfl
  obtain rfl := Option.some.inj (found.symm.trans found')
  rcases state with same | later
  · exact same
  · omega

variable {read : Option DedupRecord}

theorem readAt_of_eq (same : w.record place = read) : ReadAt place read w := by
  rintro r isRead
  exact ⟨r, same.trans isRead, .inl rfl⟩

/-- What `_decode` returns, if it does. -/
theorem decode_eq_ok {decoded : Decoded} (ok : decode read = .ok decoded) :
    (∀ key, statusIn decoded.entries key = statusOf read key) ∧
      ∀ r ∈ read, decoded.revision = r.revision ∧ decoded.entries = r.entries := by
  rcases read with _ | record
  · obtain rfl := Except.ok.inj ok
    exact ⟨fun _ => rfl, fun _ isRead => by cases isRead⟩
  unfold decode at ok
  obtain ⟨-, ok⟩ := check_bind_eq_ok.1 ok
  obtain ⟨-, ok⟩ := check_bind_eq_ok.1 ok
  obtain rfl := Except.ok.inj ok
  refine ⟨fun _ => rfl, fun r isRead => ?_⟩
  obtain rfl := Option.some.inj isRead
  exact ⟨rfl, rfl⟩

variable {capacity : ℕ}

theorem meets_readDecoded {f : Option DedupRecord × Decoded → Deduping α}
    (stable : (dedupDiscipline layout).Stable F)
    (next : ∀ read decoded, decode read = .ok decoded →
      Meets layout me (fun w => F w ∧ w.record place = read) (f (read, decoded)) goal) :
    Meets layout me F (readDecoded place capacity >>= f) goal :=
  triple_readDecoded (answered_fence layout) stable (fun _ _ _ => trivial)
    fun read decoded isDecoded _ => next read decoded isDecoded

variable {nextSequence : ℕ} {entries : DedupEntries}

/-- **A write** of what was computed from the record that was read. -/
theorem meets_advance {decoded : Decoded} {why : DedupWrite}
    {f : Bool → Deduping α} (isDecoded : decode read = .ok decoded)
    (stable : (dedupDiscipline layout).Stable F)
    (isRead : ∀ w, F w → ReadAt place read w)
    (change : ∀ w, F w → w.record place = read → Change layout w read
      ⟨decoded.revision + 1, capacity, nextSequence, entries⟩ place why)
    (next : ∀ isStored, Meets layout me (fun w => F w ∧ (isStored = true → w.record place =
      some ⟨decoded.revision + 1, capacity, nextSequence, entries⟩)) (f isStored) goal) :
    Meets layout me F (advance place read decoded.revision capacity nextSequence entries why >>= f)
      goal := by
  refine triple_advance (answered_fence layout) stable (fun w _ known => ?_) next
  rcases read with _ | r
  · exact change w known
  have revision : decoded.revision = r.revision := ((decode_eq_ok isDecoded).2 r rfl).1
  intro stored found current
  obtain rfl := (isRead w known).same found (current.trans revision)
  exact ⟨change w known found, rfl⟩

/-! ### Compaction -/

/-- A record whose published entries are all logged, as it was read. -/
private def CompletedRead (index : ℕ) (r : DedupRecord) (completed : List (String × DedupEntry))
    (w : DedupWorld) : Prop :=
  ReadAt (.shard index) (some r) w ∧ ∀ entry ∈ completed, .published entry.1 ∈ w.log

theorem stable_completedRead (layout : DedupLayout) (index : ℕ) (r : DedupRecord)
    (completed : List (String × DedupEntry)) :
    (dedupDiscipline layout).Stable (CompletedRead index r completed) :=
  (stable_readAt layout _ _).and fun _ _ _ _ _ inv allowed answered known entry isEntry =>
    stable_logged layout _ inv allowed answered (known entry isEntry)

/-- **Receipts first.** -/
theorem meets_writeReceipts {index : ℕ} {r : DedupRecord} :
    (completed : List (String × DedupEntry)) →
    Meets layout me (CompletedRead index r completed) (compactAttempts.writeReceipts completed)
      fun _ w => ReadAt (.shard index) (some r) w ∧
        ∀ entry ∈ completed, Receipted layout index r entry.1 w
  | [] => triple_pure fun _ _ known => ⟨known.1, fun _ isEntry => by cases isEntry⟩
  | (key, entry) :: rest => by
    have stable := stable_completedRead layout index r ((key, entry) :: rest)
    have permitted (w : DedupWorld) (known : CompletedRead index r ((key, entry) :: rest) w) :
        DedupPermit layout w
          (.writeTerminalIfAbsent key ⟨1, key, entry.requestDigest, .published⟩) :=
      known.2 (key, entry) List.mem_cons_self
    refine triple_call stable (fun w _ known => permitted w known)
      (fun _ w => CompletedRead index r rest w ∧ Receipted layout index r key w) ?_ fun _ => ?_
    · intro w a w' inv known answered _
      have allowed : (dedupDiscipline layout).permit me w
          (.writeTerminalIfAbsent key ⟨1, key, entry.requestDigest, .published⟩) :=
        permitted w known
      obtain ⟨isRead, logged⟩ := stable inv allowed answered known
      refine ⟨⟨isRead, fun e isEntry => logged e (List.mem_cons_of_mem _ isEntry)⟩, ?_⟩
      obtain ⟨stored, found, state⟩ := isRead r rfl
      refine ⟨stored, found, ?_⟩
      rcases state with rfl | later
      · refine .inr ⟨rfl, fun _ _ => ?_⟩
        obtain ⟨-, now, performed⟩ := answered
        obtain ⟨-, rfl⟩ := Prod.mk.inj performed
        -- whether this write stored it or another one, the receipt is there
        change ((w.terminals.writeIfAbsent key _).2.read key).isSome = true
        rcases written : w.terminals.writeIfAbsent key
          ⟨1, key, entry.requestDigest, .published⟩ with ⟨isStored, terminals⟩
        rcases StateStore.writeIfAbsent_cases written with ⟨-, rfl, there⟩ | ⟨-, -, rfl⟩
        · exact there
        · rw [StateStore.read_write_self]
          rfl
      · exact .inl later
    · have others : Meets layout me (CompletedRead index r rest) _ _ := meets_writeReceipts rest
      refine (others.frame (stable_receipted layout index r key)).mono (fun _ _ => id) fun result w _ h => ?_
      rcases result with _ | _
      · trivial
      obtain ⟨⟨isRead, receipted⟩, here⟩ := h
      refine ⟨isRead, fun e isEntry => ?_⟩
      rcases List.mem_cons.1 isEntry with rfl | isEntry
      · exact here
      · exact receipted e isEntry

variable {key : String}

theorem compacted_status {P : Prop}
    (published : statusIn entries key = some .published → P) :
    statusIn (entries.filter fun entry => entry.2.status ≠ .published) key = statusIn entries key ∨
      statusIn (entries.filter fun entry => entry.2.status ≠ .published) key = none ∧ P := by
  by_cases isPublished : statusIn entries key = some .published
  · refine .inr ⟨statusIn_eq_none fun entry isKept => ?_, published isPublished⟩
    obtain ⟨isEntry, kept⟩ := List.mem_filter.1 isKept
    rw [statusIn_of_mem isEntry] at isPublished
    simp [Option.some.inj isPublished] at kept
  refine .inl (statusIn_filter_of_kept fun entry isEntry => ?_)
  rw [statusIn_of_mem isEntry] at isPublished
  simpa using isPublished

theorem meets_compactAttempts (journal : HuginnDedupJournal) (index attempts : ℕ) :
    Meets layout me (fun _ => True) (compactAttempts layout journal index attempts)
      fun _ _ => True := by
  induction attempts with
  | zero => exact triple_throw
  | succ attempts ih =>
    refine meets_readDecoded stable_true fun read decoded isDecoded => ?_
    dsimp only
    split
    · exact meets_of_true (triple_keep_last stable_true fun _ _ _ => trivial)
    rename_i some_completed
    rcases read with _ | r
    · obtain rfl := Except.ok.inj isDecoded
      exact absurd rfl some_completed
    have entries : decoded.entries = r.entries := ((decode_eq_ok isDecoded).2 r rfl).2
    have receipts : Meets layout me
        (CompletedRead index r (publishedEntries decoded.entries).values) _ _ :=
      meets_writeReceipts _
    refine triple_seq _ (receipts.pre fun w fenced known => ?_) fun _ => ?_
    · refine ⟨readAt_of_eq known.2, fun entry isEntry => ?_⟩
      obtain ⟨isEntry, published⟩ := List.mem_filter.1 isEntry
      refine fenced.logged index entry.1 ?_
      rw [known.2, statusOf_some, ← entries, statusIn_of_mem isEntry]
      exact congrArg some (by simpa using published)
    · refine meets_advance isDecoded
        ((stable_readAt layout _ _).and fun _ _ _ _ _ inv allowed answered known entry
          isEntry => stable_receipted layout index r _ inv allowed answered (known entry isEntry))
        (fun _ known => known.1) (fun w known same key => ?_) fun isStored => ?_
      · rw [statusOf_some, ← entries]
        exact compacted_status fun isPublished own live => by
          obtain ⟨entry, isEntry, published⟩ := mem_of_statusIn isPublished
          have isCompleted : (key, entry) ∈ (publishedEntries decoded.entries).values :=
            List.mem_filter.2 ⟨isEntry, by simpa using published⟩
          obtain ⟨stored, found, state⟩ := known.2 (key, entry) isCompleted
          obtain rfl := Option.some.inj (same.symm.trans found)
          rcases state with later | ⟨-, receipted⟩
          · omega
          · exact receipted own live
      · split
        · exact meets_of_true (triple_keep_last stable_true fun _ _ _ => trivial)
        · exact meets_of_true ih

theorem meets_compactPublished (journal : HuginnDedupJournal) (index : ℕ) :
    Meets layout me (fun _ => True) (compactPublished layout journal index) fun _ _ => True := by
  refine triple_keep stable_true (fun _ _ _ => trivial) fun (compacted : Bool) => ?_
  split
  · exact triple_pure fun _ _ _ => trivial
  · exact meets_compactAttempts journal index 8

/-! ### Making room, and migration -/

/-- Eviction only ever drops what is published. -/
theorem statusIn_evictPublished {message : String} {count : ℕ} {kept : DedupEntries}
    (evicted : evictPublished message count entries = .ok kept) (key : String) :
    statusIn kept key = statusIn entries key ∨
      statusIn entries key = some .published ∧ statusIn kept key = none := by
  induction count generalizing entries with
  | zero =>
    obtain rfl := Except.ok.inj evicted
    exact .inl rfl
  | succ count ih =>
    unfold evictPublished at evicted
    split at evicted
    · cases evicted
    rename_i victim entry isLeast
    have isVictim := List.mem_filter.1 (List.argmin_mem isLeast)
    have dropped : statusIn (without entries victim) victim = none :=
      statusIn_eq_none fun other isKept => by simpa using (List.mem_filter.1 isKept).2
    by_cases same : key = victim
    · subst same
      have published : statusIn entries key = some .published := by
        rw [statusIn_of_mem isVictim.1]
        exact congrArg some (by simpa using isVictim.2)
      refine .inr ⟨published, ?_⟩
      rcases ih evicted with kept | ⟨stays, -⟩
      · rw [kept, dropped]
      · rw [dropped] at stays
        cases stays
    · have others : statusIn (without entries victim) key = statusIn entries key :=
        statusIn_filter_of_kept fun _ _ => by simpa using same
      rw [← others]
      exact ih evicted

/-- An entry of the old layout comes in where its key has none. -/
theorem statusIn_mergeEntries {sorted : List (String × DedupEntry)} {last : ℕ}
    {merged all : DedupEntries} (ok : mergeEntries sorted nextSequence merged = .ok (last, all))
    (key : String) : statusIn all key = statusIn merged key ∨ statusIn merged key = none ∧
        ∃ entry, (key, entry) ∈ sorted ∧ statusIn all key = some entry.status := by
  induction sorted generalizing nextSequence merged with
  | nil =>
    obtain ⟨-, rfl⟩ := Prod.mk.inj (Except.ok.inj ok)
    exact .inl rfl
  | cons first rest ih =>
    obtain ⟨other, entry⟩ := first
    unfold mergeEntries at ok
    split at ok
    · obtain ⟨-, -, ok⟩ := bind_eq_ok.1 ok
      refine (ih ok).imp_right fun ⟨absent, found, isFound, same⟩ => ?_
      exact ⟨absent, found, List.mem_cons_of_mem _ isFound, same⟩
    rename_i absent
    by_cases same : key = other
    · subst same
      have fresh : statusIn merged key = none := by
        rw [statusIn, absent]
        rfl
      refine .inr ⟨fresh, entry, List.mem_cons_self, ?_⟩
      rcases ih ok with kept | ⟨gone, -⟩
      · rw [kept, statusIn_put, if_pos rfl]
      · rw [statusIn_put, if_pos rfl] at gone
        cases gone
    · rcases ih ok with kept | ⟨gone, found, isFound, status⟩
      · rw [statusIn_put, if_neg same] at kept
        exact .inl kept
      · rw [statusIn_put, if_neg same] at gone
        exact .inr ⟨gone, found, List.mem_cons_of_mem _ isFound, status⟩

theorem meets_mergeLegacyShard {legacy : Option DedupRecord} {index : ℕ}
    {group : List (String × DedupEntry)}
    (isGroup : ∀ entry ∈ group, layout.shardIndex entry.1 = index ∧
      statusOf legacy entry.1 = some entry.2.status) (attempts : ℕ) :
    Meets layout me (LegacyAt legacy) (mergeLegacyShard layout index group attempts)
      fun _ => LegacyAt legacy := by
  induction attempts with
  | zero => exact triple_throw
  | succ attempts ih =>
    have stable := stable_legacyAt layout legacy
    refine meets_readDecoded stable fun read decoded isDecoded => ?_
    refine triple_checked fun (last, all) isMerged => triple_checked fun kept isEvicted => ?_
    split
    · exact triple_pure fun _ _ known => known.1
    refine Triple.pre (F := fun w => LegacyAt legacy w ∧ ReadAt (.shard index) read w) ?_
      fun _ _ known => ⟨known.1, readAt_of_eq known.2⟩
    refine meets_advance isDecoded (stable.and (stable_readAt layout _ _))
      (fun _ known => known.2) (fun w known same key => ?_) fun isStored => ?_
    · rw [← (decode_eq_ok isDecoded).1 key]
      rcases statusIn_evictPublished isEvicted key with stays | ⟨published, gone⟩
      · rcases statusIn_mergeEntries isMerged key with old | ⟨absent, entry, isEntry, status⟩
        · exact .inl (stays.trans old)
        obtain ⟨own, legacyStatus⟩ :=
          isGroup (key, entry) ((List.mem_insertionSort _).1 isEntry)
        refine .inr (.inr ⟨absent, own, fun pending => ?_⟩)
        rw [stays, status] at pending
        rcases known.1 with unchanged | migrated
        · rw [unchanged, legacyStatus, pending]
          simp
        · rw [migrated key]
          simp
      · rcases statusIn_mergeEntries isMerged key with old | ⟨absent, -⟩
        · exact .inr (.inl ⟨old.symm.trans published, gone⟩)
        · exact .inl (gone.trans absent.symm)
    · split
      · exact triple_pure fun _ _ known => known.1.1
      · exact ih.pre fun _ _ known => known.1.1

theorem meets_mergeLegacyShards {legacy : Option DedupRecord}
    (isLegacy : ∀ key, statusIn entries key = statusOf legacy key) (indices : List ℕ) :
    Meets layout me (LegacyAt legacy) (mergeLegacyShards layout entries indices)
      fun _ => LegacyAt legacy := by
  induction indices with
  | nil => exact triple_pure fun _ _ => id
  | cons index rest ih =>
    unfold mergeLegacyShards
    dsimp only
    split
    · exact ih
    refine triple_seq _ (meets_mergeLegacyShard (fun entry isEntry => ?_) 8) fun _ => ih
    obtain ⟨stored, own⟩ := List.mem_filter.1 isEntry
    refine ⟨by simpa using own, ?_⟩
    rw [← isLegacy, statusIn_of_mem stored]

theorem meets_setMigrated (owner : ℕ) :
    Meets layout me Migrated (ask (.setMigrated owner)) fun _ => Migrated :=
  triple_keep_last (stable_migrated layout) fun _ _ => id

/-- **Migration** leaves nothing in the old layout. -/
theorem meets_migrateAttempts (journal : HuginnDedupJournal) (attempts : ℕ) :
    Meets layout me (fun _ => True) (migrateAttempts layout journal attempts)
      fun _ => Migrated := by
  induction attempts with
  | zero => exact triple_throw
  | succ attempts ih =>
    refine meets_readDecoded stable_true fun read decoded isDecoded => ?_
    have statuses := (decode_eq_ok isDecoded).1
    dsimp only
    split
    · rename_i none_left
      refine (meets_setMigrated _).pre fun w _ known key => ?_
      rw [known.2, ← statuses]
      exact statusIn_eq_none fun _ stored => by
        rw [none_left] at stored
        cases stored
    · have merges : Meets layout me (LegacyAt read) (mergeLegacyShards layout decoded.entries
          (List.range layout.shardCount)) fun _ => LegacyAt read :=
        meets_mergeLegacyShards statuses _
      have framed : Meets layout me (fun w => LegacyAt read w ∧ ReadAt .legacy read w)
          (mergeLegacyShards layout decoded.entries (List.range layout.shardCount))
          fun _ => ReadAt .legacy read :=
        (merges.frame (stable_readAt layout _ _)).mono (fun _ _ => id) fun result w _ h => by
          cases result with
          | ok _ => exact h.2
          | error _ => trivial
      refine triple_seq _ (framed.pre fun w _ known => ?_) fun _ => ?_
      · exact ⟨.inl known.2, readAt_of_eq known.2⟩
      · refine meets_advance isDecoded (stable_readAt layout _ _) (fun _ => id)
          (fun _ _ _ _ => rfl) fun isStored => ?_
        split
        · rename_i stored
          refine (meets_setMigrated _).pre fun w _ known key => ?_
          rw [known.2 stored]
          rfl
        · exact meets_of_true ih

theorem meets_ensureMigrated (journal : HuginnDedupJournal) :
    Meets layout me (fun _ => True) (ensureMigrated layout journal) fun _ => Migrated := by
  refine triple_call stable_true (fun _ _ _ => trivial)
    (fun (isMigrated : Bool) w => isMigrated = true → Migrated w) ?_ fun isMigrated => ?_
  · intro w a w' fenced _ ⟨_, now, performed⟩ _ flag
    obtain ⟨rfl, rfl⟩ := Prod.mk.inj performed
    exact fenced.migrated journal.ownerToken flag
  · split
    · rename_i flag
      exact triple_pure fun _ _ known => known flag
    · exact meets_of_true (meets_migrateAttempts journal 8)

/-! ### Claims -/

theorem meets_validateTerminalRequest (stable : (dedupDiscipline layout).Stable F)
    (key digest : String) (legacyDigest : Option String) (attempts : ℕ) :
    Meets layout me F (validateTerminalRequest key digest legacyDigest attempts) fun _ => F :=
  triple_validateTerminalRequest stable (fun _ aside w _ _ => permits_aside aside w) key digest
    legacyDigest attempts

/-- What a claim answers: unless it is a duplicate, the key is not live. -/
def Unheld (key : String) (claimed : HuginnIngressClaim) (w : DedupWorld) : Prop :=
  claimed.duplicate = false → Live w.log key = false

theorem unheld_of_pending {claimed : HuginnIngressClaim}
    {record : DedupRecord} (fenced : Fenced layout w)
    (stored : w.record (.shard (layout.shardIndex key)) = some record)
    (pending : statusIn record.entries key = some .pending) : Unheld key claimed w := by
  intro _
  refine fenced.pending key ?_
  rw [DedupWorld.shardStatus, stored]
  exact pending

variable {entry : DedupEntry}

/-- The entries that a new one is put beside. -/
theorem statusIn_freshEntry {journal : HuginnDedupJournal} {request : ClaimRequest} {now : ℤ}
    {kept : DedupEntries}
    (ok : freshEntry journal request now capacity nextSequence entries = .ok (kept, entry)) :
    entry.status = .pending ∧ ∀ key, statusIn kept key = statusIn entries key ∨
      statusIn entries key = some .published ∧ statusIn kept key = none := by
  unfold freshEntry at ok
  dsimp only at ok
  split at ok
  · obtain ⟨left, isLeft, ok⟩ := bind_eq_ok.1 ok
    obtain ⟨payload, -, ok⟩ := bind_eq_ok.1 ok
    obtain ⟨change, -, ok⟩ := bind_eq_ok.1 ok
    obtain ⟨rfl, rfl⟩ := Prod.mk.inj (Except.ok.inj ok)
    exact ⟨rfl, statusIn_evictPublished isLeft⟩
  obtain ⟨left, isLeft, ok⟩ := bind_eq_ok.1 ok
  obtain ⟨payload, -, ok⟩ := bind_eq_ok.1 ok
  obtain ⟨change, -, ok⟩ := bind_eq_ok.1 ok
  obtain ⟨rfl, rfl⟩ := Prod.mk.inj (Except.ok.inj ok)
  obtain rfl := Except.ok.inj isLeft
  exact ⟨rfl, fun _ => .inl rfl⟩

theorem statusIn_put_same {status : DedupStatus} (found : statusIn entries key = some status)
    (same : entry.status = status) (other : String) :
    statusIn (entries.put (key, entry)) other = statusIn entries other := by
  rw [statusIn_put]
  split
  · rename_i isKey
    rw [isKey, found, same]
  · rfl

theorem statusIn_of_get {other : String}
    (found : entries.get key = some (other, entry)) : statusIn entries key = some entry.status := by
  rw [statusIn, found]
  rfl

/-- **A claim of a shard.** -/
theorem meets_claimShard (journal : HuginnDedupJournal) (request : ClaimRequest) (now : ℤ)
    (attempts : ℕ) : Meets layout me Migrated (claimShard layout journal request now attempts)
      (Unheld request.idempotencyKey) := by
  induction attempts with
  | zero => exact triple_throw
  | succ attempts ih =>
    refine meets_readDecoded (stable_migrated layout) fun read decoded isDecoded => ?_
    have statuses := (decode_eq_ok isDecoded).1
    -- a write that changes no status, and what follows it
    have changes {entry : DedupEntry} {status : DedupStatus}
        (found : statusIn decoded.entries request.idempotencyKey = some status)
        (same : entry.status = status) {f : Bool → Deduping HuginnIngressClaim}
        (next : ∀ isStored, Meets layout me (fun w => Migrated w ∧ (isStored = true →
          ∃ record, w.record (.shard (layout.shardIndex request.idempotencyKey)) =
            some record ∧ statusIn record.entries request.idempotencyKey = some status))
          (f isStored) (Unheld request.idempotencyKey)) :
        Meets layout me (fun w => Migrated w ∧
            w.record (.shard (layout.shardIndex request.idempotencyKey)) = read)
          (advance (.shard (layout.shardIndex request.idempotencyKey)) read decoded.revision
            (layout.shardCapacity (layout.shardIndex request.idempotencyKey))
            decoded.nextSequence (decoded.entries.put (request.idempotencyKey, entry)) .changed
            >>= f) (Unheld request.idempotencyKey) := by
      refine Triple.pre (F := fun w => Migrated w ∧
        ReadAt (.shard (layout.shardIndex request.idempotencyKey)) read w) ?_
        fun _ _ known => ⟨known.1, readAt_of_eq known.2⟩
      refine meets_advance isDecoded ((stable_migrated layout).and (stable_readAt layout _ _))
        (fun _ known => known.2) (fun w known _ key => ?_) fun isStored => ?_
      · exact (statusIn_put_same found same key).trans (statuses key)
      · refine (next isStored).pre fun w _ known => ⟨known.1.1, fun stored => ?_⟩
        refine ⟨_, known.2 stored, ?_⟩
        exact (statusIn_put_same found same _).trans found
    dsimp only
    split
    · rename_i other existing found
      have status := statusIn_of_get found
      refine triple_checked fun _ _ => ?_
      split
      · exact changes status (by rfl) fun _ => ih.pre fun _ _ known => known.1
      split
      · exact triple_pure fun _ _ _ notDuplicate => by cases notDuplicate
      rename_i notPublished
      have pending : existing.status = .pending := by
        cases isStatus : existing.status with
        | pending => rfl
        | published => exact absurd isStatus notPublished
      split
      · -- this journal holds the claim already
        refine triple_check fun claimed _ w fenced known => ?_
        cases read with
        | none =>
          rw [statuses] at status
          cases status
        | some record =>
          refine unheld_of_pending fenced known.2 ?_
          rw [← statusOf_some, ← statuses, status, pending]
      · refine triple_checked fun leaseExpiresAt _ => ?_
        split
        · exact triple_throw
        refine changes status (by rfl) fun isStored => ?_
        split
        · rename_i stored
          refine triple_check fun claimed _ w fenced known => ?_
          obtain ⟨record, isRecord, recovered⟩ := known.2 stored
          exact unheld_of_pending fenced isRecord (recovered.trans (congrArg some pending))
        · exact ih.pre fun _ _ known => known.1
    · rename_i absent
      refine triple_checked fun (kept, entry) isFresh => ?_
      obtain ⟨pending, others⟩ := statusIn_freshEntry isFresh
      have added : statusIn (kept.put (request.idempotencyKey, entry)) request.idempotencyKey =
          some .pending := by
        rw [statusIn_put, if_pos rfl, pending]
      refine Triple.pre (F := fun w => Migrated w ∧
        ReadAt (.shard (layout.shardIndex request.idempotencyKey)) read w) ?_
        fun _ _ known => ⟨known.1, readAt_of_eq known.2⟩
      refine meets_advance isDecoded ((stable_migrated layout).and (stable_readAt layout _ _))
        (fun _ known => known.2) (fun w known _ => ?_) fun isStored => ?_
      · refine ⟨rfl, known.1, ?_, added, fun other apart => ?_⟩
        · rw [← statuses, statusIn, absent]
          rfl
        · rw [statusIn_put, if_neg apart, ← statuses]
          exact others other
      · split
        · rename_i stored
          exact triple_check fun claimed _ w fenced known =>
            unheld_of_pending fenced (known.2 stored) added
        · exact ih.pre fun _ _ known => known.1.1

theorem meets_claim (journal : HuginnDedupJournal) (request : ClaimRequest) :
    Meets layout me (fun _ => True) (claim layout journal request)
      (Unheld request.idempotencyKey) := by
  refine triple_seq _ (meets_ensureMigrated journal) fun _ => ?_
  have compacts : Meets layout me Migrated
      (compactPublished layout journal (layout.shardIndex request.idempotencyKey))
      fun _ w => True ∧ Migrated w :=
    (meets_compactPublished journal _).frame_returns (stable_migrated layout)
  refine triple_seq _ compacts fun _ => Triple.pre (F := Migrated) ?_ fun _ _ known => known.2
  refine triple_keep (stable_migrated layout) (fun _ _ _ => trivial) fun (terminal : Option _) => ?_
  cases terminal with
  | some _ =>
    refine triple_seq _ (meets_validateTerminalRequest (stable_migrated layout) _ _ _ 8) fun _ => ?_
    exact triple_pure fun _ _ _ notDuplicate => by cases notDuplicate
  | none =>
    refine triple_keep (stable_migrated layout) (fun _ _ _ => trivial) fun reading => ?_
    exact triple_checked fun now _ => meets_claimShard journal request now 8

/-! ### Completions -/

theorem meets_completeShard (journal : HuginnDedupJournal) (key digest : String)
    (required : Bool) (attempts : ℕ) :
    Meets layout me (fun _ => True) (completeShard layout journal key digest required attempts)
      fun _ w => .published key ∈ w.log := by
  induction attempts with
  | zero => exact triple_throw
  | succ attempts ih =>
    refine meets_readDecoded stable_true fun read decoded isDecoded => ?_
    have statuses := (decode_eq_ok isDecoded).1
    dsimp only
    split
    · refine meets_of_true ?_
      -- a receipt says that the key was published
      refine triple_call stable_true (fun _ _ _ => trivial) (fun (terminal : Option _) w =>
        terminal.isSome = true → .published key ∈ w.log) ?_ fun (terminal : Option _) => ?_
      · intro w a w' fenced _ ⟨_, now, performed⟩ _ isSome
        obtain ⟨rfl, rfl⟩ := Prod.mk.inj performed
        exact fenced.recorded key isSome
      · rcases terminal with _ | receipt
        · exact triple_throw
        have validates : Meets layout me _ _ _ := meets_validateTerminalRequest
          (stable_logged layout (.published key)) key digest none 8
        refine triple_seq _ (validates.pre fun _ _ known => known rfl) fun _ => ?_
        exact triple_pure fun _ _ => id
    · rename_i other existing found
      have status := statusIn_of_get found
      refine triple_checked fun _ _ => ?_
      split
      · rename_i published
        refine triple_pure fun w fenced known => fenced.logged (layout.shardIndex key) key ?_
        rw [known.2, ← statuses, status, published]
      rename_i notPublished
      split
      · exact triple_throw
      refine triple_checked fun topics _ => ?_
      split
      · exact triple_throw
      refine Triple.pre (F := ReadAt (.shard (layout.shardIndex key)) read) ?_
        fun _ _ known => readAt_of_eq known.2
      refine meets_advance isDecoded (stable_readAt layout _ _) (fun _ => id)
        (fun w _ _ => ⟨rfl, ?_, fun other => ?_⟩) fun isStored => ?_
      · rw [← statuses, status]
        cases isStatus : existing.status with
        | pending => rfl
        | published => exact absurd isStatus notPublished
      · rw [statusIn_put, ← statuses]
      · split
        · rename_i stored
          refine triple_pure fun w fenced known => ?_
          refine fenced.logged (layout.shardIndex key) key ?_
          rw [known.2 stored, statusOf_some, statusIn_put, if_pos rfl]
        · exact meets_of_true ih

theorem meets_pruneTerminals (stable : (dedupDiscipline layout).Stable F)
    (journal : HuginnDedupJournal) :
    Meets layout me F (pruneTerminals layout journal) fun _ => F :=
  triple_pruneTerminals stable (fun _ aside w _ _ => permits_aside aside w) journal

theorem meets_complete (journal : HuginnDedupJournal) (key digest : String) (required : Bool) :
    Meets layout me (fun _ => True) (complete layout journal key digest required)
      fun _ w => .published key ∈ w.log := by
  refine triple_seq _ (meets_of_true (meets_ensureMigrated journal)) fun _ => ?_
  refine triple_seq _ (meets_of_true (meets_compactPublished journal _)) fun _ => ?_
  refine triple_seq _ (meets_of_true (meets_completeShard journal key digest required 8))
    fun (inShard : Bool) => ?_
  have stable := stable_logged layout (.published key)
  split
  · refine triple_keep stable (fun _ _ _ => trivial) fun _ => ?_
    refine triple_seq _ ((meets_compactPublished journal _).frame_returns stable) fun _ => ?_
    exact (meets_pruneTerminals stable journal).pre fun _ _ known => known.2
  · exact triple_pure fun _ _ => id

theorem meets_markShard (journal : HuginnDedupJournal) (key digest : String)
    (topic : PublicationTopic) (attempts : ℕ) :
    Meets layout me (fun _ => True) (markShard layout journal key digest topic attempts)
      fun _ _ => True := by
  induction attempts with
  | zero => exact triple_throw
  | succ attempts ih =>
    refine meets_readDecoded stable_true fun read decoded isDecoded => ?_
    have statuses := (decode_eq_ok isDecoded).1
    dsimp only
    split
    · refine meets_of_true ?_
      refine triple_keep stable_true (fun _ _ _ => trivial) fun (terminal : Option _) => ?_
      split
      · exact triple_pure fun _ _ _ => trivial
      · exact triple_throw
    rename_i other existing found
    refine triple_checked fun _ _ => ?_
    split
    · exact triple_pure fun _ _ _ => trivial
    split
    · exact triple_throw
    split
    · exact triple_throw
    refine triple_checked fun topics _ => ?_
    split
    · exact triple_pure fun _ _ _ => trivial
    refine Triple.pre (F := ReadAt (.shard (layout.shardIndex key)) read) ?_
      fun _ _ known => readAt_of_eq known.2
    refine meets_advance isDecoded (stable_readAt layout _ _) (fun _ => id)
      (fun w _ _ other => ?_) fun isStored => ?_
    · exact (statusIn_put_same (statusIn_of_get found) (by rfl) other).trans (statuses other)
    · split
      · exact triple_pure fun _ _ _ => trivial
      · exact meets_of_true ih

/-- What an operation returns with. -/
def DedupPost : DedupResult → DedupWorld → Prop
  | .claimed key claimed => Unheld key claimed
  | .completed key => fun w => .published key ∈ w.log
  | .marked _ => fun _ => True

theorem meets_program (journal : HuginnDedupJournal) (request : DedupRequest) :
    Meets layout me (fun _ => True) (request.program layout journal) DedupPost := by
  cases request with
  | claim request => exact triple_map (meets_claim journal request)
  | complete key digest required => exact triple_map (meets_complete journal key digest required)
  | markPublished key digest topic =>
    refine triple_map (triple_seq _ (meets_of_true (meets_ensureMigrated journal)) fun _ => ?_)
    refine triple_seq _ (meets_of_true (meets_compactPublished journal _)) fun _ => ?_
    exact meets_of_true (meets_markShard journal key digest topic 8)

end

/-! ## Runs -/

/-- A deployment starts with an empty store, or with the record of the old layout. -/
def deployed (legacy : Option DedupRecord) : DedupWorld :=
  match legacy with
  | none => {}
  | some record => ({} : DedupWorld).stored .legacy record

theorem fenced_deployed (layout : DedupLayout) (legacy : Option DedupRecord) :
    Fenced layout (deployed legacy) := by
  rcases legacy with _ | record
  · exact fenced_empty layout
  refine ⟨fun _ => .inr (fun live => by cases live), fun _ _ => rfl,
    fun _ stored => (by cases stored), fun index key published => ?_,
    fun _ flag => (by cases flag)⟩
  rw [deployed, record_stored_ne (by simp)] at published
  cases published

theorem log_grows_perform (now : Datetime) (w : DedupWorld) (op : DedupOp) :
    w.log <+: (w.perform now op).2.log := by
  have stored (place : Place) (value : DedupRecord) (isStored : Bool) :
      w.log <+: (if isStored then w.stored place value else w).log := by
    cases isStored with
    | false => exact List.prefix_rfl
    | true => cases place with
      | legacy => exact List.prefix_rfl
      | shard index => exact List.prefix_append _ _
  cases op with
  | writeEntriesIfAbsent place value | compareAndSetEntries place value =>
    exact stored place value _
  | deleteTerminalsBeyond => exact List.prefix_append _ _
  | countCompletion =>
    unfold DedupWorld.perform
    dsimp only
    split
    · exact List.prefix_rfl
    · exact List.prefix_rfl
  | now | readEntries | readTerminal | writeTerminalIfAbsent | compareAndSetTerminal
  | isMigrated | setMigrated | isCompacted | setCompacted => exact List.prefix_rfl

/-- **A complete key is handed out once.** A claim that is no duplicate finishes only with a
key whose receipt was pruned since, if the key was completed or its entry was published. -/
structure HandedOutOnce (layout : DedupLayout) (w₀ : DedupWorld)
    (moves : List (Move (HuginnDedupJournal × DedupRequest) Datetime)) : Prop where
  /-- A `complete` of the key has returned before. -/
  completed : ∀ first m between m' after key claimed,
    moves = first ++ m :: (between ++ m' :: after) →
    (dedupMachine layout).Finishes ((dedupMachine layout).run (Machine.idle w₀) first) m
      (.ok (.completed key)) →
    (dedupMachine layout).Finishes
      ((dedupMachine layout).run (Machine.idle w₀) (first ++ m :: between)) m'
      (.ok (.claimed key claimed)) → claimed.duplicate = false →
    PrunedSince
      ((dedupMachine layout).run (Machine.idle w₀) (first ++ m :: (between ++ [m']))).world.log key
  /-- The entry of the key was published, and may be evicted since. -/
  evicted : ∀ first m after key claimed, moves = first ++ m :: after →
    (dedupMachine layout).Finishes ((dedupMachine layout).run (Machine.idle w₀) first) m
      (.ok (.claimed key claimed)) → claimed.duplicate = false →
    .published key ∈ ((dedupMachine layout).run (Machine.idle w₀) (first ++ [m])).world.log →
    PrunedSince ((dedupMachine layout).run (Machine.idle w₀) (first ++ [m])).world.log key

section

variable {layout : DedupLayout} {w₀ : DedupWorld}
  {moves first after : List (Move (HuginnDedupJournal × DedupRequest) Datetime)}
  {m : Move (HuginnDedupJournal × DedupRequest) Datetime} {result : DedupResult}

/-- **What an operation finishes with**, in an orderly run. -/
theorem finishes_post (fenced : Fenced layout w₀)
    (orderly : (dedupMachine layout).Observes (DedupOrderly layout) (Machine.idle w₀)
      (first ++ m :: after))
    (finishes : (dedupMachine layout).Finishes
      ((dedupMachine layout).run (Machine.idle w₀) first) m (.ok result)) :
    DedupPost result ((dedupMachine layout).run (Machine.idle w₀) (first ++ [m])).world := by
  obtain ⟨before, admits, -⟩ := Machine.observes_append.1 orderly
  let post : Except DedupError DedupResult → DedupWorld → Prop := fun r w =>
    Fenced layout w ∧ Returns DedupPost r w
  have healthy : Machine.Healthy (dedupDiscipline layout) post
      ((dedupMachine layout).run (Machine.idle w₀) first) :=
    Machine.run_healthy id (fun replica call w inv => meets_program call.1 call.2 w inv trivial)
      (Machine.Healthy.idle fenced) before
  have reached := healthy.finishes id admits finishes
  rw [Machine.run_append]
  exact reached.2

end

/-- **The fence** holds in every orderly run. -/
theorem dedup_fenced (layout : DedupLayout) (legacy : Option DedupRecord)
    (moves : List (Move (HuginnDedupJournal × DedupRequest) Datetime))
    (orderly : (dedupMachine layout).Observes (DedupOrderly layout)
      (Machine.idle (deployed legacy)) moves) :
    HandedOutOnce layout (deployed legacy) moves := by
  have fenced := fenced_deployed layout legacy
  refine ⟨fun first m between m' after key claimed split completes claims fresh => ?_,
    fun first m after key claimed split claims fresh published => ?_⟩
  · subst split
    have published : .published key ∈ ((dedupMachine layout).run _ (first ++ [m])).world.log :=
      finishes_post fenced orderly completes
    have grows := Machine.run_world (M := dedupMachine layout)
      (R := fun w w' => w.log <+: w'.log) (fun _ => List.prefix_rfl) List.IsPrefix.trans
      log_grows_perform ((dedupMachine layout).run (Machine.idle (deployed legacy)) (first ++ [m]))
      (between ++ [m'])
    rw [← Machine.run_append, List.append_assoc, List.singleton_append] at grows
    have regrouped : first ++ m :: (between ++ m' :: after) =
        (first ++ m :: between) ++ m' :: after := by simp
    rw [regrouped] at orderly
    have unheld : Unheld key claimed _ := finishes_post fenced orderly claims
    rw [List.append_assoc, List.cons_append] at unheld
    exact prunedSince_of_not_live (grows.subset published) (unheld fresh)
  · subst split
    have unheld : Unheld key claimed _ := finishes_post fenced orderly claims
    exact prunedSince_of_not_live published (unheld fresh)

/-- Four entries, in one shard. -/
private def oneShard : DedupLayout := ⟨4, fun _ => 0, by decide⟩

theorem minute_pos : 0 < Datetime.minutes 1 := by decide

theorem minute_le : Datetime.minutes 1 ≤ Datetime.minutes 5 := by decide

/-- Journals whose claims last for a minute. -/
private def minuteJournal (owner : ℕ) : HuginnDedupJournal :=
  ⟨owner, Datetime.minutes 1, minute_pos, minute_le⟩

private def aDigest : String :=
  "sha256:0123456789abcdef0123456789abcdef0123456789abcdef0123456789abcdef"

private def aClaim : ClaimRequest :=
  { idempotencyKey := "k", requestDigest := aDigest, payload := .mapping "{}" }

private def advances (replica count : ℕ) :
    List (Move (HuginnDedupJournal × DedupRequest) Datetime) :=
  List.replicate count (.advance replica (.aware 0))

/-- A key is claimed, completed and claimed again. -/
private def oneAfterTheOther : List (Move (HuginnDedupJournal × DedupRequest) Datetime) :=
  .start (minuteJournal 0, .claim aClaim) :: advances 0 10 ++
    .start (minuteJournal 0, .complete "k" aDigest) :: advances 1 20 ++
      .start (minuteJournal 1, .claim aClaim) :: advances 2 20

/-- A claim after the completion keeps to the condition. -/
theorem fenced_one_after_the_other : HandedOutOnce oneShard (deployed none) oneAfterTheOther :=
  dedup_fenced oneShard none oneAfterTheOther (by decide +kernel)

/-- A second claim finds no receipt, and the first one is completed before it goes on. -/
private def claimedInBetween : List (Move (HuginnDedupJournal × DedupRequest) Datetime) :=
  .start (minuteJournal 0, .claim aClaim) :: advances 0 10 ++
    .start (minuteJournal 1, .claim aClaim) :: advances 1 7 ++
      .start (minuteJournal 0, .complete "k" aDigest) :: advances 2 11

/-- **The completed key is handed out again.** -/
theorem completed_key_claimed : ¬ HandedOutOnce oneShard (deployed none)
    (claimedInBetween ++ advances 2 1 ++ advances 1 3) := by
  intro once
  have claimed := once.completed claimedInBetween (.advance 2 (.aware 0)) (advances 1 2)
    (.advance 1 (.aware 0)) [] "k" ⟨some "{}", none, false, []⟩ (by simp [advances])
    (Machine.finishes_of_finished (by decide +kernel) (by decide +kernel))
    (Machine.finishes_of_finished (by decide +kernel) (by decide +kernel)) rfl
  -- nothing is pruned in this run
  have pruned : .pruned "k" ∈ ((dedupMachine oneShard).run (Machine.idle (deployed none))
      (claimedInBetween ++ .advance 2 (.aware 0) :: (advances 1 2 ++ [.advance 1 (.aware 0)]))
      ).world.log := by
    obtain ⟨before, after, isLog, -⟩ := claimed
    rw [isLog]
    simp
  exact absurd pruned (by decide +kernel)

end Fdai.Core.HuginnDedup
