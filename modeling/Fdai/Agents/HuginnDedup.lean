import Mathlib.Data.List.MinMax
import Mathlib.Data.List.Sort
import Fdai.Concurrency.Machine
import Fdai.Providers.Checks
import Fdai.Providers.StateStore
import Fdai.Providers.Time
import Fdai.Sequences.Keyed

/-!
# Huginn's ingress journal

Replicas deduplicate ingress keys over one store. A key is claimed as a pending entry of a
shard; once its publication is complete the entry becomes a published one, and compaction
turns published entries into terminal receipts.

* `DedupEntry`, `DedupRecord`, `decode` — what a shard holds, and the checks it is read with.
* `evictable`, `mergeLegacy` — making room, and the entries of the layout before the shards.
* `claim`, `complete`, `markPublished` — the operations, with `compactPublished` and
  `ensureMigrated` in them.
* `DedupWorld` — the store and the flags each journal keeps; `log` is not read by the code.

Audit entries are left out, and so is the lock that keeps the tasks of one replica from
migrating at once.
-/

namespace Fdai.Core.HuginnDedup

open Fdai.Providers Fdai.Concurrency Fdai.Sequences

/-- What an operation raises. -/
inductive DedupError where
  /-- `HuginnClaimInProgressError`. -/
  | inProgress (message : String)
  /-- `HuginnClaimInProgressError`, "ingress claim remains active until" an instant. -/
  | activeUntil (leaseExpiresAt : ℤ)
  | runtime (message : String)
  | value (message : String)
  deriving DecidableEq

inductive DedupStatus where
  | pending | published
  deriving DecidableEq

/-- The topics of a publication, in the order of their names. -/
inductive PublicationTopic where
  | objectChange | objectEvent
  deriving DecidableEq

/-- A value that is handed in for a JSON object: a mapping, by its canonical text, or
something that has none. -/
inductive JsonInput where
  | mapping (canonical : String)
  | notCanonical
  | notMapping

def jsonMapping (field : String) : JsonInput → Except DedupError String
  | .mapping canonical => .ok canonical
  | .notCanonical => .error (.value ("Huginn dedup " ++ field ++ " MUST be canonical JSON"))
  | .notMapping => .error (.value ("Huginn dedup " ++ field ++ " MUST be an object"))

/-- An entry of a shard. An owner token is the number of a journal, and `""` is none; so is
the lease of a published entry. -/
structure DedupEntry where
  requestDigest : String
  status : DedupStatus
  ownerToken : Option ℕ
  leaseExpiresAt : Option Datetime
  sequence : ℕ
  payload : Option String
  changeProjection : Option String
  publishedTopics : List PublicationTopic := []
  deriving DecidableEq

/-- The entries of a record, by idempotency key. -/
abbrev DedupEntries := Keyed (Prod.fst : String × DedupEntry → String)

/-- The record of a shard, or of the layout before the shards. -/
structure DedupRecord where
  revision : ℕ
  capacity : ℕ
  nextSequence : ℕ
  entries : DedupEntries

structure TerminalReceipt where
  revision : ℕ
  idempotencyKey : String
  requestDigest : String
  status : DedupStatus

/-! ### Reading a record -/

def isDigest (value : String) : Bool :=
  value.toList.take 7 = "sha256:".toList ∧ value.toList.length = 71 ∧
    (value.toList.drop 7).all fun character => character ∈ "0123456789abcdef".toList

def publishedTopics (entry : DedupEntry) : Except DedupError (List PublicationTopic) :=
  if entry.publishedTopics.Nodup then .ok entry.publishedTopics
  else .error (.value "Huginn published topic marker is invalid")

def parseTime : Option Datetime → Except DedupError ℤ
  | some (.aware instant) => .ok instant
  | some (.naive _) => .error (.value "Huginn dedup lease timestamp MUST be timezone-aware")
  | none => .error (.value "Huginn dedup lease timestamp is malformed")

def clockNow : Datetime → Except DedupError ℤ
  | .aware instant => .ok instant
  | .naive _ => .error (.value "Huginn dedup clock MUST be timezone-aware")

/-- The checks of one entry, where the sequences before it are known. -/
def checkEntry (nextSequence : ℕ) (sequences : List ℕ) (key : String) (entry : DedupEntry) :
    Except DedupError Unit := do
  validate [(key ≠ "", .value "Huginn dedup entry is malformed"),
     (isDigest entry.requestDigest ∧ 1 ≤ entry.sequence ∧ entry.sequence ∉ sequences ∧
        entry.sequence < nextSequence, .value "Huginn dedup entry identity is malformed")]
  match entry.status with
  | .pending => do
    validate [(entry.ownerToken.isSome ∧ entry.leaseExpiresAt.isSome ∧ entry.payload.isSome,
        .value "Huginn pending dedup entry is malformed")]
    let _ ← parseTime entry.leaseExpiresAt
    let _ ← publishedTopics entry
    pure ()
  | .published =>
    validate [(entry.ownerToken = none ∧ entry.leaseExpiresAt = none ∧ entry.payload = none ∧
          entry.changeProjection = none,
        .value "Huginn published dedup entry retains pending state")]

/-- The checks of the entries, one after the other. -/
def checkEntries (nextSequence : ℕ) :
    (sequences : List ℕ) → List (String × DedupEntry) → Except DedupError Unit
  | _, [] => .ok ()
  | sequences, (key, entry) :: rest => do
    checkEntry nextSequence sequences key entry
    checkEntries nextSequence (entry.sequence :: sequences) rest

/-- What `_decode` returns. -/
structure Decoded where
  revision : ℕ
  capacity : Option ℕ
  nextSequence : ℕ
  entries : DedupEntries

def decode : Option DedupRecord → Except DedupError Decoded
  | none => .ok ⟨0, none, 1, Keyed.empty⟩
  | some record => do
    validate [(1 ≤ record.revision, .value "Huginn dedup revision MUST be positive"),
       (1 ≤ record.capacity, .value "Huginn dedup capacity MUST be positive"),
       (1 ≤ record.nextSequence, .value "Huginn dedup next sequence MUST be positive"),
       (record.entries.values.length ≤ record.capacity,
        .value "Huginn dedup entries are malformed")]
    checkEntries record.nextSequence [] record.entries.values
    pure ⟨record.revision, some record.capacity, record.nextSequence, record.entries⟩

def validateRequest (retained requestDigest : String) (legacyRequestDigest : Option String) :
    Except DedupError Unit :=
  if retained ≠ requestDigest ∧ legacyRequestDigest ≠ some retained then
    .error (.value "Huginn idempotency key collides with another raw request")
  else .ok ()

def publishedEntries (entries : DedupEntries) : DedupEntries :=
  entries.filter fun (_, entry) => entry.status = .published

/-- The published entry of the least sequence. -/
def evictable (entries : DedupEntries) : Option (String × DedupEntry) :=
  (publishedEntries entries).values.argmin fun (_, entry) => entry.sequence

/-- `del entries[key]`. -/
def without (entries : DedupEntries) (key : String) : DedupEntries :=
  entries.filter fun (other, _) => other ≠ key

def evictPublished (message : String) : ℕ → DedupEntries → Except DedupError DedupEntries
  | 0, entries => .ok entries
  | count + 1, entries =>
    match evictable entries with
    | none => .error (.runtime message)
    | some (key, _) => evictPublished message count (without entries key)

/-- Merge entries of the old layout in, in their order, under new sequences. -/
def mergeEntries : List (String × DedupEntry) → ℕ → DedupEntries →
    Except DedupError (ℕ × DedupEntries)
  | [], nextSequence, merged => .ok (nextSequence, merged)
  | (key, entry) :: rest, nextSequence, merged =>
    match merged.get key with
    | some (_, existing) => do
      validateRequest existing.requestDigest entry.requestDigest none
      mergeEntries rest nextSequence merged
    | none =>
      mergeEntries rest (nextSequence + 1)
        (merged.put (key, { entry with sequence := nextSequence }))

/-- What the journals of a deployment share. `keyHash` is the number in the first two bytes
of the SHA-256 of a key. -/
structure DedupLayout where
  capacity : ℕ
  keyHash : String → ℕ
  capacity_pos : 1 ≤ capacity

namespace DedupLayout

variable (layout : DedupLayout)

def shardCount : ℕ := min 64 layout.capacity

def shardIndex (idempotencyKey : String) : ℕ := layout.keyHash idempotencyKey % layout.shardCount

def shardCapacity (index : ℕ) : ℕ :=
  layout.capacity / layout.shardCount +
    if index < layout.capacity % layout.shardCount then 1 else 0

def terminalRetention : ℕ := max (layout.capacity + 1) (layout.capacity * 4)

def pruneInterval : ℕ := max 1 (min 256 (layout.capacity / 64))

end DedupLayout

/-- A journal of one replica. -/
structure HuginnDedupJournal where
  ownerToken : ℕ
  /-- In microseconds. -/
  claimLease : ℤ
  lease_pos : 0 < claimLease
  lease_le : claimLease ≤ Datetime.minutes 5

/-! ## Calls -/

/-- Where a record with entries is stored. -/
inductive Place where
  | legacy
  | shard (index : ℕ)
  deriving DecidableEq

/-- What a write of a record is for. -/
inductive DedupWrite where
  /-- An entry is new. -/
  | claimed (key : String)
  /-- An entry has another digest, owner, lease or topics. -/
  | changed
  | completed (key : String)
  | compacted
  | merged
  | migrated

/-- What a journal calls. -/
inductive DedupOp where
  | now
  | readEntries (place : Place)
  | writeEntriesIfAbsent (place : Place) (value : DedupRecord) (why : DedupWrite)
  | compareAndSetEntries (place : Place) (value : DedupRecord) (expectedRevision : ℕ)
      (why : DedupWrite)
  | readTerminal (key : String)
  | writeTerminalIfAbsent (key : String) (value : TerminalReceipt)
  | compareAndSetTerminal (key : String) (value : TerminalReceipt) (expectedRevision : ℕ)
  | deleteTerminalsBeyond (retainNewest : ℕ)
  /-- `_migration_complete`. -/
  | isMigrated (owner : ℕ)
  | setMigrated (owner : ℕ)
  /-- `_compacted_shards`. -/
  | isCompacted (owner index : ℕ)
  | setCompacted (owner index : ℕ) (compacted : Bool)
  /-- `_completions_since_prune`: count a completion; is it time to prune? -/
  | countCompletion (owner pruneInterval : ℕ)

@[reducible] def DedupOp.Ans : DedupOp → Type
  | .now => Datetime
  | .readEntries _ => Option DedupRecord
  | .writeEntriesIfAbsent _ _ _ | .compareAndSetEntries _ _ _ _ => Bool
  | .readTerminal _ => Option TerminalReceipt
  | .writeTerminalIfAbsent _ _ | .compareAndSetTerminal _ _ _ => Bool
  | .deleteTerminalsBeyond _ | .setMigrated _ | .setCompacted _ _ _ => Unit
  | .isMigrated _ | .isCompacted _ _ | .countCompletion _ _ => Bool

/-- A program of a journal. -/
abbrev Deduping (α : Type) := Program DedupOp DedupOp.Ans DedupError α

namespace Deduping

/-- Make one call. -/
def ask (op : DedupOp) : Deduping op.Ans := Program.invoke op

/-- A check that raises. -/
def checked {α : Type} : Except DedupError α → Deduping α
  | .ok value => pure value
  | .error error => throw error

end Deduping

open Deduping

def validateCapacity (storedCapacity : Option ℕ) (expected : ℕ) : Except DedupError Unit :=
  match storedCapacity with
  | some stored =>
    if stored ≠ expected then
      .error (.value "Huginn dedup capacity conflicts with durable state")
    else .ok ()
  | none => .ok ()

/-- Read a record and check it. -/
def readDecoded (place : Place) (expectedCapacity : ℕ) :
    Deduping (Option DedupRecord × Decoded) := do
  let current : Option DedupRecord ← ask (.readEntries place)
  let decoded ← checked (decode current)
  checked (validateCapacity decoded.capacity expectedCapacity)
  pure (current, decoded)

def advance (place : Place) (current : Option DedupRecord) (revision capacity nextSequence : ℕ)
    (entries : DedupEntries) (why : DedupWrite) : Deduping Bool :=
  let value : DedupRecord := ⟨revision + 1, capacity, nextSequence, entries⟩
  match current with
  | none => ask (.writeEntriesIfAbsent place value why)
  | some _ => ask (.compareAndSetEntries place value revision why)

/-- What a claim returns. -/
structure HuginnIngressClaim where
  payload : Option String
  changeProjection : Option String
  duplicate : Bool := false
  publishedTopics : List PublicationTopic := []
  deriving DecidableEq

/-- The claim of a key that is complete: its payload is `{}`. -/
def HuginnIngressClaim.duplicated : HuginnIngressClaim :=
  { payload := none, changeProjection := none, duplicate := true }

def claimFromEntry (entry : DedupEntry) : Except DedupError HuginnIngressClaim := do
  match entry.payload with
  | none => .error (.value "Huginn dedup payload MUST be an object")
  | some payload => do
    let topics ← publishedTopics entry
    pure { payload := some payload, changeProjection := entry.changeProjection
           publishedTopics := topics }

section

variable (layout : DedupLayout) (journal : HuginnDedupJournal)

/-- `_compact_published`, with the attempts that are left. -/
def compactAttempts (index : ℕ) : ℕ → Deduping Unit
  | 0 => throw (.runtime "Huginn dedup shard compaction exceeded the bounded retry limit")
  | attempts + 1 => do
    let capacity := layout.shardCapacity index
    let (current, decoded) ← readDecoded (.shard index) capacity
    let completed := publishedEntries decoded.entries
    if completed.values = [] then ask (.setCompacted journal.ownerToken index true)
    else do
      writeReceipts completed.values
      let kept := decoded.entries.filter fun (_, entry) => entry.status ≠ .published
      let isStored ← advance (.shard index) current decoded.revision capacity
        decoded.nextSequence kept .compacted
      if isStored then ask (.setCompacted journal.ownerToken index true)
      else compactAttempts index attempts
where
  /-- The receipts of completed entries. -/
  writeReceipts : List (String × DedupEntry) → Deduping Unit
    | [] => pure ()
    | (key, entry) :: rest => do
      let _ ← ask (.writeTerminalIfAbsent key ⟨1, key, entry.requestDigest, .published⟩)
      writeReceipts rest

def compactPublished (index : ℕ) : Deduping Unit := do
  let compacted : Bool ← ask (.isCompacted journal.ownerToken index)
  if compacted then pure () else compactAttempts layout journal index 8

/-- `_merge_legacy_shard`, with the attempts that are left. -/
def mergeLegacyShard (index : ℕ) (legacyEntries : List (String × DedupEntry)) : ℕ → Deduping Unit
  | 0 => throw (.runtime "Huginn dedup shard migration exceeded the bounded retry limit")
  | attempts + 1 => do
    let capacity := layout.shardCapacity index
    let (current, decoded) ← readDecoded (.shard index) capacity
    let sorted := legacyEntries.insertionSort fun a b => a.2.sequence ≤ b.2.sequence
    let (nextSequence, all) ← checked (mergeEntries sorted decoded.nextSequence decoded.entries)
    let merged ← checked (evictPublished "Huginn dedup shard has no completed entry to evict"
      (all.values.length - capacity) all)
    if merged = decoded.entries then pure ()
    else do
      let isStored ← advance (.shard index) current decoded.revision capacity nextSequence
        merged .merged
      if isStored then pure () else mergeLegacyShard index legacyEntries attempts

/-- Merge the entries of the old layout into their shards, shard by shard. -/
def mergeLegacyShards (entries : DedupEntries) : List ℕ → Deduping Unit
  | [] => pure ()
  | index :: rest => do
    let group := entries.values.filter fun (key, _) => layout.shardIndex key = index
    if group = [] then mergeLegacyShards entries rest
    else do
      mergeLegacyShard layout index group 8
      mergeLegacyShards entries rest

/-- The migration, with the attempts that are left. -/
def migrateAttempts : ℕ → Deduping Unit
  | 0 => throw (.runtime "Huginn dedup migration contention exceeded the bounded retry limit")
  | attempts + 1 => do
    let (current, decoded) ← readDecoded .legacy layout.capacity
    if decoded.entries.values = [] then ask (.setMigrated journal.ownerToken)
    else do
      mergeLegacyShards layout decoded.entries (List.range layout.shardCount)
      let isStored ← advance .legacy current decoded.revision layout.capacity 1 Keyed.empty
        .migrated
      if isStored then ask (.setMigrated journal.ownerToken) else migrateAttempts attempts

def ensureMigrated : Deduping Unit := do
  let migrated : Bool ← ask (.isMigrated journal.ownerToken)
  if migrated then pure () else migrateAttempts layout journal 8

/-- `_validate_terminal_request`, with the attempts that are left. -/
def validateTerminalRequest (idempotencyKey requestDigest : String)
    (legacyRequestDigest : Option String) : ℕ → Deduping Unit
  | 0 => throw (.runtime "Huginn request digest upgrade exceeded the bounded retry limit")
  | attempts + 1 => do
    let terminal : Option TerminalReceipt ← ask (.readTerminal idempotencyKey)
    match terminal with
    | none =>
      throw (.runtime "Huginn completed ingress record disappeared during verification")
    | some receipt => do
      checked (validateRequest receipt.requestDigest requestDigest legacyRequestDigest)
      if receipt.requestDigest = requestDigest then pure ()
      else if receipt.revision < 1 then
        throw (.value "Huginn completed ingress revision MUST be positive")
      else do
        let isStored : Bool ← ask (.compareAndSetTerminal idempotencyKey
          { receipt with revision := receipt.revision + 1, requestDigest } receipt.revision)
        if isStored then pure ()
        else validateTerminalRequest idempotencyKey requestDigest legacyRequestDigest attempts

/-- The arguments of `claim`. -/
structure ClaimRequest where
  idempotencyKey : String
  requestDigest : String
  payload : JsonInput
  changeProjection : Option JsonInput := none
  legacyRequestDigest : Option String := none

/-- A new entry of a shard, and the entries that are left to stand beside it. -/
def freshEntry (request : ClaimRequest) (now : ℤ) (capacity nextSequence : ℕ)
    (entries : DedupEntries) : Except DedupError (DedupEntries × DedupEntry) := do
  let kept ←
    if capacity ≤ entries.values.length then
      evictPublished "Huginn dedup journal has no completed entry to evict" 1 entries
    else pure entries
  let payload ← jsonMapping "payload" request.payload
  let changeProjection ← request.changeProjection.mapM (jsonMapping "change_projection")
  pure (kept,
    { requestDigest := request.requestDigest, status := .pending
      ownerToken := some journal.ownerToken
      leaseExpiresAt := some (.aware (now + journal.claimLease))
      sequence := nextSequence, payload := some payload, changeProjection })

/-- The part of `claim` that works on the shard, with the attempts that are left. -/
def claimShard (request : ClaimRequest) (now : ℤ) : ℕ → Deduping HuginnIngressClaim
  | 0 => throw (.runtime "Huginn dedup claim contention exceeded the bounded retry limit")
  | attempts + 1 => do
    let key := request.idempotencyKey
    let index := layout.shardIndex key
    let capacity := layout.shardCapacity index
    let (current, decoded) ← readDecoded (.shard index) capacity
    match decoded.entries.get key with
    | some (_, existing) => do
      checked (validateRequest existing.requestDigest request.requestDigest
        request.legacyRequestDigest)
      if existing.requestDigest ≠ request.requestDigest then do
        let upgraded := { existing with requestDigest := request.requestDigest }
        let _ ← advance (.shard index) current decoded.revision capacity
          decoded.nextSequence (decoded.entries.put (key, upgraded)) .changed
        claimShard request now attempts
      else if existing.status = .published then pure .duplicated
      else if existing.ownerToken = some journal.ownerToken then
        checked (claimFromEntry existing)
      else do
        let leaseExpiresAt ← checked (parseTime existing.leaseExpiresAt)
        if now < leaseExpiresAt then throw (.activeUntil leaseExpiresAt)
        else do
          let replacement :=
            { existing with
              ownerToken := some journal.ownerToken
              leaseExpiresAt := some (.aware (now + journal.claimLease)) }
          let isStored ← advance (.shard index) current decoded.revision capacity
            decoded.nextSequence (decoded.entries.put (key, replacement)) .changed
          if isStored then checked (claimFromEntry replacement)
          else claimShard request now attempts
    | none => do
      let (kept, entry) ← checked (freshEntry journal request now capacity
        decoded.nextSequence decoded.entries)
      let isStored ← advance (.shard index) current decoded.revision capacity
        (decoded.nextSequence + 1) (kept.put (key, entry)) (.claimed key)
      if isStored then checked (claimFromEntry entry)
      else claimShard request now attempts

def claim (request : ClaimRequest) : Deduping HuginnIngressClaim := do
  ensureMigrated layout journal
  compactPublished layout journal (layout.shardIndex request.idempotencyKey)
  let terminal : Option TerminalReceipt ← ask (.readTerminal request.idempotencyKey)
  match terminal with
  | some _ => do
    validateTerminalRequest request.idempotencyKey request.requestDigest
      request.legacyRequestDigest 8
    pure .duplicated
  | none => do
    let reading : Datetime ← ask .now
    let now ← checked (clockNow reading)
    claimShard layout journal request now 8

/-- The topics whose publication a complete entry needs. -/
def requiredTopics (entry : DedupEntry) : List PublicationTopic :=
  if entry.changeProjection.isSome then [.objectChange, .objectEvent] else [.objectEvent]

/-- The loop of `complete`, with the attempts that are left. It says whether the entry is
published in the shard, and not a receipt already. -/
def completeShard (key requestDigest : String) (requirePublishedTopics : Bool) : ℕ → Deduping Bool
  | 0 => throw (.runtime "Huginn dedup completion contention exceeded the bounded retry limit")
  | attempts + 1 => do
    let index := layout.shardIndex key
    let capacity := layout.shardCapacity index
    let (current, decoded) ← readDecoded (.shard index) capacity
    match decoded.entries.get key with
    | none => do
      let terminal : Option TerminalReceipt ← ask (.readTerminal key)
      match terminal with
      | some _ => do
        validateTerminalRequest key requestDigest none 8
        pure false
      | none => throw (.runtime "Huginn ingress claim disappeared before completion")
    | some (_, existing) => do
      checked (validateRequest existing.requestDigest requestDigest none)
      if existing.status = .published then pure true
      else if existing.ownerToken ≠ some journal.ownerToken then
        throw (.inProgress "Huginn ingress claim belongs to another replica")
      else do
        let topics ← checked (publishedTopics existing)
        if requirePublishedTopics ∧ ¬ requiredTopics existing ⊆ topics then
          throw (.runtime "Huginn ingress publication legs are incomplete")
        else do
          let completed : DedupEntry :=
            { requestDigest, status := .published, ownerToken := none, leaseExpiresAt := none
              sequence := existing.sequence, payload := none, changeProjection := none
              publishedTopics := requiredTopics existing }
          let isStored ← advance (.shard index) current decoded.revision capacity
            decoded.nextSequence (decoded.entries.put (key, completed)) (.completed key)
          if isStored then pure true
          else completeShard key requestDigest requirePublishedTopics attempts

def pruneTerminals : Deduping Unit := do
  let isTime : Bool ← ask (.countCompletion journal.ownerToken layout.pruneInterval)
  if isTime then ask (.deleteTerminalsBeyond layout.terminalRetention) else pure ()

def complete (key requestDigest : String) (requirePublishedTopics : Bool) : Deduping Unit := do
  ensureMigrated layout journal
  let index := layout.shardIndex key
  compactPublished layout journal index
  let inShard ← completeShard layout journal key requestDigest requirePublishedTopics 8
  if inShard then do
    ask (.setCompacted journal.ownerToken index false)
    compactPublished layout journal index
    pruneTerminals layout journal
  else pure ()

/-- `mark_published` on the shard, with the attempts that are left. -/
def markShard (key requestDigest : String) (topic : PublicationTopic) : ℕ → Deduping Unit
  | 0 => throw (.runtime "Huginn publication marker contention exceeded the bounded retry limit")
  | attempts + 1 => do
    let index := layout.shardIndex key
    let capacity := layout.shardCapacity index
    let (current, decoded) ← readDecoded (.shard index) capacity
    match decoded.entries.get key with
    | none => do
      let terminal : Option TerminalReceipt ← ask (.readTerminal key)
      if terminal.isSome then pure ()
      else throw (.runtime "Huginn ingress claim disappeared before publication marker")
    | some (_, existing) => do
      checked (validateRequest existing.requestDigest requestDigest none)
      if existing.status = .published then pure ()
      else if existing.ownerToken ≠ some journal.ownerToken then
        throw (.inProgress "Huginn ingress claim belongs to another replica")
      else if topic = .objectChange ∧ existing.changeProjection = none then
        throw (.value "Huginn change publication marker has no change payload")
      else do
        let topics ← checked (publishedTopics existing)
        if topic ∈ topics then pure ()
        else do
          let marked :=
            { existing with
              publishedTopics := [.objectChange, .objectEvent].filter fun other =>
                other = topic ∨ other ∈ topics }
          let isStored ← advance (.shard index) current decoded.revision capacity
            decoded.nextSequence (decoded.entries.put (key, marked)) .changed
          if isStored then pure () else markShard key requestDigest topic attempts

def markPublished (key requestDigest : String) (topic : PublicationTopic) : Deduping Unit := do
  ensureMigrated layout journal
  compactPublished layout journal (layout.shardIndex key)
  markShard layout journal key requestDigest topic 8

end

/-- What became of a key: an entry of it is stored as published, or its receipt is deleted. -/
inductive DedupEvent where
  | published (key : String)
  | pruned (key : String)
  deriving DecidableEq

/-- The records, the receipts, and what each journal remembers. -/
structure DedupWorld where
  records : StateStore Place fun _ => DedupRecord := StateStore.empty
  terminals : StateStore String fun _ => TerminalReceipt := StateStore.empty
  migrated : ℕ → Bool := fun _ => false
  compacted : ℕ → ℕ → Bool := fun _ _ => false
  completions : ℕ → Option ℕ := fun _ => none
  log : List DedupEvent := []

abbrev DedupWorld.record (w : DedupWorld) (place : Place) : Option DedupRecord :=
  w.records.read place

abbrev DedupWorld.receipt (w : DedupWorld) (key : String) : Option TerminalReceipt :=
  w.terminals.read key

def statusOf (record : Option DedupRecord) (key : String) : Option DedupStatus :=
  (record.bind fun record => record.entries.get key).map fun entry => entry.2.status

/-- The keys that a record has as published, and the one before it has not. -/
def newlyPublished (old : Option DedupRecord) (new : DedupRecord) : List String :=
  ((publishedEntries new.entries).values.filter fun entry =>
    statusOf old entry.1 ≠ some .published).map Prod.fst

def DedupWorld.stored (w : DedupWorld) (place : Place) (value : DedupRecord) : DedupWorld :=
  { w with
    records := w.records.write place value
    log := match place with
      | .legacy => w.log
      | .shard _ => w.log ++ (newlyPublished (w.record place) value).map .published }

/-- The effect of one call. The outside answers with the reading of the clock. -/
def DedupWorld.perform (now : Datetime) (w : DedupWorld) : (op : DedupOp) → op.Ans × DedupWorld
  | .now => (now, w)
  | .readEntries place => (w.record place, w)
  | .writeEntriesIfAbsent place value _ =>
    let isStored := (w.records.writeIfAbsent place value).1
    (isStored, if isStored then w.stored place value else w)
  | .compareAndSetEntries place value expectedRevision _ =>
    let isStored :=
      (w.records.compareAndSet (fun _ record => record.revision) place value expectedRevision).1
    (isStored, if isStored then w.stored place value else w)
  | .readTerminal key => (w.receipt key, w)
  | .writeTerminalIfAbsent key value =>
    let (isStored, terminals) := w.terminals.writeIfAbsent key value
    (isStored, { w with terminals })
  | .compareAndSetTerminal key value expectedRevision =>
    let (isStored, terminals) :=
      w.terminals.compareAndSet (fun _ receipt => receipt.revision) key value expectedRevision
    (isStored, { w with terminals })
  | .deleteTerminalsBeyond retainNewest =>
    ((), { w with
      terminals := w.terminals.deleteBeyond (fun _ => true) retainNewest
      log := w.log ++ (w.terminals.beyond (fun _ => true) retainNewest).map .pruned })
  | .isMigrated owner => (w.migrated owner, w)
  | .setMigrated owner => ((), { w with migrated := Function.update w.migrated owner true })
  | .isCompacted owner index => (w.compacted owner index, w)
  | .setCompacted owner index compacted =>
    ((), { w with
      compacted := Function.update w.compacted owner
        (Function.update (w.compacted owner) index compacted) })
  | .countCompletion owner pruneInterval =>
    -- a journal starts with its counter at the interval
    let count := (w.completions owner).getD pruneInterval + 1
    if count < pruneInterval then
      (false, { w with completions := Function.update w.completions owner (some count) })
    else (true, { w with completions := Function.update w.completions owner (some 0) })

/-- An operation of a journal. -/
inductive DedupRequest where
  | claim (request : ClaimRequest)
  | complete (key requestDigest : String) (requirePublishedTopics : Bool := false)
  | markPublished (key requestDigest : String) (topic : PublicationTopic)

/-- What an operation returns, with the key it was about. -/
inductive DedupResult where
  | claimed (key : String) (claim : HuginnIngressClaim)
  | completed (key : String)
  | marked (key : String)
  deriving DecidableEq

/-- The program of an operation. -/
def DedupRequest.program (layout : DedupLayout) (journal : HuginnDedupJournal) :
    DedupRequest → Deduping DedupResult
  | .claim request => .claimed request.idempotencyKey <$> HuginnDedup.claim layout journal request
  | .complete key requestDigest required =>
    (fun _ => .completed key) <$> HuginnDedup.complete layout journal key requestDigest required
  | .markPublished key requestDigest topic =>
    (fun _ => .marked key) <$> HuginnDedup.markPublished layout journal key requestDigest topic

/-- Journals over one store. -/
def dedupMachine (layout : DedupLayout) :
    Machine DedupOp DedupOp.Ans DedupWorld DedupError DedupResult
      (HuginnDedupJournal × DedupRequest) Datetime where
  perform := DedupWorld.perform
  program _ call := call.2.program layout call.1

end Fdai.Core.HuginnDedup
