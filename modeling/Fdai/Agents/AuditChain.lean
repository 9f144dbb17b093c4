import Fdai.Agents.AuditJournal
import Fdai.Concurrency.Machine
import Fdai.Providers.StateStore

/-!
# The audit chain adapters

Any number of adapters append to one chain. An append reads the checkpoint, and its row is
written together with the next checkpoint, by a compare-and-set on the revision of the one that
was read. Each adapter keeps a mirror of the window it last installed.

* `loadJournal`, `loadAppendJournal` — reading a journal, and the migration of a store without
  one.
* `append`, `appendWithStatePair`, `rehydrateAuditEntries` — the operations.
* `AuditWorld` — the store and the mirrors; `log` is not read by the code.

The lock of an adapter only takes interleavings away and is left out, so two appends of one
adapter may overlap. Clocks, the queue of an adapter and what a store can do come from outside.
-/

namespace Fdai.Core.AuditChain

open Fdai.Providers Fdai.Sequences Fdai.Concurrency

/-! ## Stored values -/

def auditCheckpointKey : String := "pantheon/saga/audit-chain/verified-head"

/-- What is stored under the checkpoint key. -/
inductive Checkpoint where
  /-- The format before journals. -/
  | legacy (length : ℕ) (headHash : Digest)
  | journal (stored : StoredJournal)
  /-- Anything else that is no journal. -/
  | other (revision : ℕ)

/-- The revision a compare-and-set looks at; it is `0` where there is none. -/
def Checkpoint.revision : Checkpoint → ℕ
  | .legacy _ _ => 0
  | .journal stored => stored.revision
  | .other revision => revision

def Checkpoint.isJournal : Checkpoint → Bool
  | .journal _ => true
  | _ => false

def payloadDigest (canonical : String) : Digest := .ofTexts ["payload", canonical]

/-- A row of the chain. It has no entry if a field is missing or of another type; headers have
no payload. -/
structure AuditRecord where
  entry : Option AuditEntry
  payload : Option String

/-- The entry of a row, if the payload that comes with it is the entry's. -/
def decodeRecord (mismatch : String) (record : AuditRecord) : Except AuditError AuditEntry := do
  let entry ← decodeEntry record.entry
  if record.payload.all fun payload => payloadDigest payload = entry.payloadDigest then pure entry
  else .error (.chain mismatch)

/-- A row of the state under another key than the checkpoint. -/
structure StateRow where
  revision : ℕ
  value : String

/-- The window an adapter has installed. -/
structure Mirror where
  entries : List AuditEntry := []
  baseLength : ℕ := 0
  baseHash : Digest := genesisHash
  sealedLength : ℕ := 0
  sealedHeadHash : Digest := genesisHash

/-- `_install`. -/
def AuditJournal.mirror (journal : AuditJournal) : Mirror :=
  ⟨journal.entries, journal.baseLength, journal.baseHash, journal.length, journal.headHash⟩

/-- `verify`, of the whole mirror. -/
def Mirror.verify (mirror : Mirror) : Except AuditError Unit := do
  verifyEntries mirror.baseLength mirror.baseHash mirror.entries
  if mirror.baseLength + mirror.entries.length ≠ mirror.sealedLength then
    .error (.chain "chain length mismatch")
  else if AuditLink.headOf mirror.baseHash mirror.entries ≠ mirror.sealedHeadHash then
    .error (.chain "chain head mismatch")
  else pure ()

/-- How an append gets through the queue of its adapter. -/
inductive QueueOutcome where
  | full | timedOut | acquired

/-- What an adapter calls. -/
inductive AuditOp where
  | queue
  | deadlinePassed
  | readCheckpoint
  /-- Is the store a `StateStoreAuditChainWindowReader`? -/
  | isWindowReader
  /-- `supports_compact_audit_checkpoint`. -/
  | supportsCompact
  /-- `read_audit_chain_entries`, or `read_audit_entries` without the rows of others: the oldest
  rows, and whether some were left out. A store may have neither. -/
  | readHistory
  /-- `read_audit_chain_window`. -/
  | readWindow (startSeq endSeq : ℕ) (headHash : Digest)
  | createCheckpoint (value : StoredJournal)
  | replaceCheckpoint (value : StoredJournal) (expectedRevision : ℕ)
  /-- `compare_and_set_state_with_audit`. The program that writes is known. -/
  | commit (writer : ℕ) (value : StoredJournal) (expectedRevision : ℕ) (record : AuditRecord)
  /-- Is the store a `StateStorePairAuditWriter`? -/
  | writesPairs
  /-- `compare_and_set_state_pair_with_audit`. -/
  | commitPair (writer : ℕ) (value : StoredJournal) (expectedRevision : ℕ) (stateKey : String)
      (stateValue : StateRow) (expectedStateRevision : ℕ) (record : AuditRecord)
  | readMirror (adapter : ℕ)
  | install (adapter : ℕ) (mirror : Mirror)
  /-- A row of the state is written by another component. -/
  | writeState (key : String) (row : StateRow)

@[reducible] def AuditOp.Ans : AuditOp → Type
  | .queue => QueueOutcome
  | .readCheckpoint => Option Checkpoint
  | .readHistory => Option (List AuditRecord × Bool)
  | .readWindow _ _ _ => List AuditRecord
  | .readMirror _ => Mirror
  | .install _ _ | .writeState _ _ => Unit
  | .deadlinePassed | .isWindowReader | .supportsCompact | .createCheckpoint _
  | .replaceCheckpoint _ _ | .commit _ _ _ _ | .writesPairs | .commitPair _ _ _ _ _ _ _ => Bool

/-- A program of an adapter. -/
abbrev Auditing (α : Type) := Program AuditOp AuditOp.Ans AuditError α

/-- Make one call. -/
def ask (op : AuditOp) : Auditing op.Ans := Program.invoke op

/-- Go on with a value, or raise its error. -/
def orRaise {α : Type} : Except AuditError α → Auditing α
  | .ok a => pure a
  | .error e => throw e

/-- What `_load_window` restores of the rows it has read. -/
def restoreWindow (journal : AuditJournal) (records : List AuditRecord) :
    Except AuditError AuditJournal := do
  let start := journal.length - auditJournalLimit
  if records.length ≠ journal.length - start then
    .error (.chain "compact audit recovery window is incomplete or duplicated")
  else do
    let entries ← records.mapM (decodeRecord "compact audit recovery payload digest mismatch")
    let baseHash := (entries.head?.map AuditEntry.prevHash).getD genesisHash
    if start = 0 ∧ baseHash ≠ genesisHash then
      .error (.chain "compact audit recovery genesis hash mismatch")
    else do
      verifyEntries start baseHash entries
      if AuditLink.headOf baseHash entries ≠ journal.headHash then
        .error (.chain "compact audit recovery head mismatch")
      else do
        let restored : AuditJournal := ⟨journal.revision, start, baseHash, entries⟩
        let _ ← restored.encode false
        pure restored

def loadWindow (journal : AuditJournal) : Auditing AuditJournal := do
  let isReader : Bool ← ask .isWindowReader
  if ¬ isReader then
    throw (.chain "compact audit checkpoint requires the bounded window reader")
  else if journal.length = 0 then pure journal
  else do
    let records : List AuditRecord ← ask (.readWindow (journal.length - auditJournalLimit)
      journal.length journal.headHash)
    orRaise (restoreWindow journal records)

/-- `load_journal`, where a journal is stored. -/
def loadStored (withWindow : Bool) (stored : StoredJournal) : Auditing AuditJournal := do
  let journal ← orRaise (decodeJournal stored)
  if ¬ stored.compact then pure journal
  else do
    let isReader : Bool ← ask .isWindowReader
    if ¬ isReader then
      throw (.chain "compact audit checkpoint requires the bounded window reader")
    else do
      let supported : Bool ← ask .supportsCompact
      if ¬ supported then
        throw (.chain "compact audit checkpoint requires canonical header storage")
      else if withWindow then loadWindow journal
      else pure journal

/-- The checkpoint before the migration is the head of some of the history. -/
def legacyMatches (stored : Option Checkpoint) (restored : List AuditEntry) : Bool :=
  match stored with
  | none => true
  | some (.legacy length headHash) =>
    length ≤ restored.length && isHash headHash &&
      headHash = AuditLink.headOf genesisHash (restored.take length)
  | some _ => false

/-- The journal that a migration starts from a complete history. -/
def migratedJournal (stored : Option Checkpoint) (history : Option (List AuditRecord × Bool)) :
    Except AuditError AuditJournal :=
  match history with
  | none => .error (.chain "durable audit history reader is required for legacy migration")
  | some (records, truncated) => do
    if truncated then
      .error (.chain "legacy audit history exceeds bounded migration; reviewed migration required")
    else do
      let restored ← records.mapM (decodeRecord "legacy audit payload digest mismatch")
      verifyEntries 0 genesisHash restored
      if ¬ legacyMatches stored restored then
        .error (.chain "durable audit checkpoint is inconsistent with complete legacy history")
      else pure ⟨1, 0, genesisHash, restored⟩

/-- The journal of a migration is stored where nothing else has been. -/
def storeMigrated (value : StoredJournal) : Option Checkpoint → Auditing Bool
  | none => ask (.createCheckpoint value)
  | some _ => ask (.replaceCheckpoint value 0)

/-- `load_journal`, where no journal is stored. -/
def migrate (stored : Option Checkpoint) : Auditing (Option AuditJournal) := do
  let history : Option (List AuditRecord × Bool) ← ask .readHistory
  let journal ← orRaise (migratedJournal stored history)
  let value ← orRaise (journal.encode false)
  let created ← storeMigrated value stored
  pure (if created then some journal else none)

def loadJournal (withWindow : Bool) : Auditing (Option AuditJournal) := do
  let stored : Option Checkpoint ← ask .readCheckpoint
  match stored with
  | some (.journal stored) => some <$> loadStored withWindow stored
  | stored => migrate stored

/-- The verified mirror, with the revision that was read. -/
def mirroredJournal (mirror : Mirror) (journal : AuditJournal) : Except AuditError AuditJournal :=
  do
    mirror.verify
    pure ⟨journal.revision, mirror.baseLength, mirror.baseHash, mirror.entries⟩

def loadAppendJournal (adapter : ℕ) : Auditing (Option AuditJournal) := do
  match ← loadJournal false with
  | none => pure none
  | some journal =>
    if journal.entries.length = min journal.length auditJournalLimit then pure (some journal)
    else do
      let mirror : Mirror ← ask (.readMirror adapter)
      if mirror.sealedLength = journal.length ∧ mirror.sealedHeadHash = journal.headHash then
        some <$> orRaise (mirroredJournal mirror journal)
      else loadJournal true

/-! ## Appending -/

/-- The arguments of an append, but for the correlation id. -/
structure AuditContent where
  principal : String
  topic : String
  /-- The canonical JSON of the payload, if it has one. -/
  payload : Option String

/-- The entry that an append adds. -/
def AuditJournal.nextEntry (journal : AuditJournal) (principal topic correlationId : String)
    (digest : Digest) : AuditEntry :=
  let entry : AuditEntry :=
    { seq := journal.length, prevHash := journal.headHash, entryHash := .none, principal, topic
      correlationId, payloadDigest := digest }
  { entry with entryHash := entry.hash }

/-- The digest of a payload is taken before anything else. -/
def canonicalPayload (content : AuditContent) : Except AuditError String :=
  match content.payload with
  | some payload => .ok payload
  | none => .error (.value "payload is not canonical JSON")

/-- Get through the queue of the adapter. -/
def enterQueue : Auditing Unit := do
  let outcome : QueueOutcome ← ask .queue
  match outcome with
  | .full => throw (.deferred "durable audit append queue is full")
  | .timedOut => throw (.deferred "durable audit append queue deadline exceeded")
  | .acquired => pure ()

/-- The deadline has not passed yet. -/
def checkDeadline : Auditing Unit := do
  let passed : Bool ← ask .deadlinePassed
  if passed then throw (.deferred "durable audit append deadline exceeded") else pure ()

def supportsCompactCheckpoint : Auditing Bool := do
  let isReader : Bool ← ask .isWindowReader
  if isReader then ask .supportsCompact else pure false

/-- The stored form of the next journal, in the format that the store supports. -/
def encodeNext (journal : AuditJournal) : Auditing StoredJournal := do
  let compact ← supportsCompactCheckpoint
  orRaise (journal.encode compact)

/-- The attempts of `append` that are left. -/
def appendRounds (writer adapter : ℕ) (content : AuditContent) (correlationId payload : String) :
    ℕ → Auditing AuditEntry
  | 0 => throw (.deferred "durable audit append contention budget exhausted")
  | attempts + 1 => do
    checkDeadline
    match ← loadAppendJournal adapter with
    | none => appendRounds writer adapter content correlationId payload attempts
    | some journal => do
      let entry := journal.nextEntry content.principal content.topic correlationId
        (payloadDigest payload)
      let advanced := journal.advanced entry
      checkDeadline
      let value ← encodeNext advanced
      let committed : Bool ← ask (.commit writer value journal.revision ⟨some entry, some payload⟩)
      if committed then do
        ask (.install adapter advanced.mirror)
        pure entry
      else appendRounds writer adapter content correlationId payload attempts

def append (writer adapter : ℕ) (content : AuditContent) (correlationId : String) :
    Auditing AuditEntry := do
  let payload ← orRaise (canonicalPayload content)
  enterQueue
  appendRounds writer adapter content correlationId payload 8

/-- The second row of `append_with_state_pair`. -/
structure StatePair where
  stateKey : String
  stateValue : StateRow
  expectedStateRevision : ℕ
  correlationIdPrefix : Option String
  correlationId : Option String

def StatePair.entryCorrelationId (pair : StatePair) (length : ℕ) : Except AuditError String :=
  match pair.correlationIdPrefix, pair.correlationId with
  | some beginning, _ => .ok (beginning ++ ":" ++ toString length)
  | none, some correlationId => .ok correlationId
  | none, none => .error (.value "audit correlation identifier is required")

/-- The loads of `append_with_state_pair` that are left; there is one attempt to write. -/
def appendPairRounds (writer adapter : ℕ) (content : AuditContent) (pair : StatePair)
    (payload : String) : ℕ → Auditing (Option AuditEntry)
  | 0 => throw (.deferred "durable audit initialization contention budget exhausted")
  | attempts + 1 => do
    checkDeadline
    match ← loadAppendJournal adapter with
    | none => appendPairRounds writer adapter content pair payload attempts
    | some journal => do
      let correlationId ← orRaise (pair.entryCorrelationId journal.length)
      let entry := journal.nextEntry content.principal content.topic correlationId
        (payloadDigest payload)
      let advanced := journal.advanced entry
      let value ← encodeNext advanced
      if pair.stateKey = auditCheckpointKey then
        throw (.value "state pair expected revisions or keys are invalid")
      else do
        let committed : Bool ← ask (.commitPair writer value journal.revision pair.stateKey
          pair.stateValue pair.expectedStateRevision ⟨some entry, some payload⟩)
        if committed then do
          ask (.install adapter advanced.mirror)
          pure (some entry)
        else pure none

/-- The checks of `append_with_state_pair`. -/
def StatePair.check (pair : StatePair) : Except AuditError Unit :=
  if pair.expectedStateRevision < 1 then .error (.value "state revision MUST be >= 1")
  else if pair.correlationIdPrefix.isNone = pair.correlationId.isNone then
    .error (.value "supply exactly one audit correlation identifier")
  else .ok ()

def appendWithStatePair (writer adapter : ℕ) (content : AuditContent) (pair : StatePair) :
    Auditing (Option AuditEntry) := do
  let writes : Bool ← ask .writesPairs
  if ¬ writes then pure none
  else do
    orRaise pair.check
    let payload ← orRaise (canonicalPayload content)
    enterQueue
    appendPairRounds writer adapter content pair payload 8

/-- The loads of `rehydrate_audit_entries` that are left. -/
def rehydrateRounds : ℕ → Auditing (List AuditEntry)
  | 0 => throw (.chain "durable audit initialization contention budget exhausted")
  | attempts + 1 => do
    match ← loadJournal true with
    | none => rehydrateRounds attempts
    | some journal => pure journal.entries

def rehydrateAuditEntries : Auditing (List AuditEntry) := rehydrateRounds 8

/-! ## Adapters over one store -/

structure AuditWorld where
  checkpoint : Option Checkpoint := none
  /-- The rows of the chain, oldest first. -/
  rows : List AuditRecord := []
  /-- The rows of the state under other keys. -/
  states : StateStore String fun _ => StateRow := StateStore.empty
  mirrors : ℕ → Mirror := fun _ => {}
  /-- The programs that have written the rows since the start. -/
  log : List ℕ := []

/-- The entries of the rows. -/
def AuditWorld.entries (w : AuditWorld) : List AuditEntry := w.rows.filterMap AuditRecord.entry

/-- What comes from outside: the queue and the clock of an adapter, and what the store can do. -/
structure AuditOracle where
  queue : QueueOutcome := .acquired
  deadlinePassed : Bool := false
  isWindowReader : Bool := true
  supportsCompact : Bool := false
  hasHistoryReader : Bool := true
  /-- Rows that are not of the chain fill the bounded history. -/
  crowded : Bool := false
  writesPairs : Bool := true

/-- `_CHAIN_WINDOW_SQL`: the headers that are reached from the head, at most two of a hash; one
more than is asked for shows that there are too many. -/
def chainWindow (entries : List AuditEntry) (startSeq endSeq : ℕ) (headHash : Digest) :
    List AuditRecord :=
  let parents := fun hash => (entries.filter (·.entryHash = hash)).take 2
  let recent := AuditLink.ancestry parents (endSeq - startSeq) (parents headHash)
  (recent.take (endSeq - startSeq + 1)).reverse.map fun entry => ⟨some entry, none⟩

/-- A row is appended and the checkpoint replaced, in one transaction. -/
def AuditWorld.appended (w : AuditWorld) (writer : ℕ) (value : StoredJournal)
    (record : AuditRecord) : AuditWorld :=
  { w with
    checkpoint := some (.journal value)
    rows := w.rows ++ [record]
    log := w.log ++ [writer] }

/-- Does the stored checkpoint have the expected revision? -/
def AuditWorld.hasRevision (w : AuditWorld) (expectedRevision : ℕ) : Bool :=
  w.checkpoint.any fun stored => stored.revision = expectedRevision

/-- The effect of one call. -/
def AuditWorld.perform (o : AuditOracle) (w : AuditWorld) : (op : AuditOp) → op.Ans × AuditWorld
  | .queue => (o.queue, w)
  | .deadlinePassed => (o.deadlinePassed, w)
  | .readCheckpoint => (w.checkpoint, w)
  | .isWindowReader => (o.isWindowReader, w)
  | .supportsCompact => (o.supportsCompact, w)
  | .readHistory =>
    if o.hasHistoryReader then
      (some (w.rows.take auditJournalLimit, o.crowded || auditJournalLimit < w.rows.length), w)
    else (none, w)
  | .readWindow startSeq endSeq headHash =>
    (chainWindow w.entries startSeq endSeq headHash, w)
  | .createCheckpoint value =>
    match w.checkpoint with
    | some _ => (false, w)
    | none => (true, { w with checkpoint := some (.journal value) })
  | .replaceCheckpoint value expectedRevision =>
    if w.hasRevision expectedRevision then
      (true, { w with checkpoint := some (.journal value) })
    else (false, w)
  | .commit writer value expectedRevision record =>
    if w.hasRevision expectedRevision then (true, w.appended writer value record)
    else (false, w)
  | .writesPairs => (o.writesPairs, w)
  | .commitPair writer value expectedRevision stateKey stateValue expectedStateRevision record =>
    let (matched, states) := w.states.compareAndSet (fun _ row => row.revision) stateKey
      stateValue expectedStateRevision
    if w.hasRevision expectedRevision ∧ matched then
      (true, { w.appended writer value record with states })
    else (false, w)
  | .readMirror adapter => (w.mirrors adapter, w)
  | .install adapter mirror =>
    ((), { w with mirrors := fun other => if other = adapter then mirror else w.mirrors other })
  | .writeState key row => ((), { w with states := w.states.write key row })

inductive AuditRequest where
  | append (adapter : ℕ) (content : AuditContent) (correlationId : String)
  | appendWithStatePair (adapter : ℕ) (content : AuditContent) (pair : StatePair)
  | rehydrate
  /-- Another component writes a row of the state. -/
  | writeState (key : String) (row : StateRow)

/-- What a request returns. -/
inductive AuditResult where
  /-- The entry that was appended, by the program of a number. -/
  | appended (writer : ℕ) (entry : AuditEntry)
  /-- Nothing was appended: the pair has changed, or the store writes none. -/
  | unchanged
  | rehydrated (entries : List AuditEntry)
  | written

def AuditRequest.program (writer : ℕ) : AuditRequest → Auditing AuditResult
  | .append adapter content correlationId =>
    .appended writer <$> AuditChain.append writer adapter content correlationId
  | .appendWithStatePair adapter content pair =>
    (fun entry => entry.elim .unchanged (.appended writer)) <$>
      AuditChain.appendWithStatePair writer adapter content pair
  | .rehydrate => .rehydrated <$> rehydrateAuditEntries
  | .writeState key row => do
    ask (.writeState key row)
    pure .written

/-- Adapters over one store. -/
def auditMachine :
    Machine AuditOp AuditOp.Ans AuditWorld AuditError AuditResult AuditRequest AuditOracle where
  perform := AuditWorld.perform
  program writer request := request.program writer

end Fdai.Core.AuditChain
