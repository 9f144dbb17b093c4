import Fdai.Documents.PythonEquality
import Fdai.Providers.Digest
import Fdai.Providers.Time
import Fdai.Sequences.KeySnapshots
import Fdai.Sequences.SortedBy
import Mathlib.Data.Prod.Lex

/-!
# The state store in memory

A dictionary of rows, the last written last, and an audit log whose entries are chained by their hashes;
the log may have a cap, and its oldest half is dropped when it grows past it.

* `MemoryStore` — the fields of the store.
* `appendAudit`, `verifyChain` — the log.
* `writeLocked`, `combined` — a row that is written, and rows that are written together with an entry of
  the log, or not at all.
* The operations, under their own names: each combined write is `combined` of its guard and its rows.
-/

namespace Fdai.Providers.Memory

open Fdai.Core Fdai.Documents Fdai.Sequences

/-- What the language decides of the mappings that are stored. An operation that raises is `none`. -/
structure Objects (Obj : Type) where
  fields : Obj → List (String × Json)
  /-- `deepcopy(dict(value))`. -/
  deepcopy : Obj → Option Obj
  /-- `canonical_entry`. -/
  canonicalEntry : Obj → Option String
  /-- `{**value, name: text}`. -/
  withText : Obj → String → String → Obj
  /-- `str` of a value that is no text. -/
  str : Json → String
  casefold : String → String
  /-- `datetime.fromisoformat`. -/
  fromisoformat : String → Option Datetime
  /-- A copy prints as what it is a copy of. -/
  canonicalEntry_copy : ∀ value copy, deepcopy value = some copy →
    canonicalEntry copy = canonicalEntry value

variable {Obj : Type} (objects : Objects Obj)

namespace Objects

/-- `value.get(name)`. -/
def get (value : Obj) (name : String) : Option Json := (objects.fields value).lookup name

/-- `value.get(name) == expected`. -/
def fieldEq (value : Obj) (name : String) (expected : Json) : Bool :=
  (objects.get value name).any (·.pyEq expected)

/-- `str(fields.get(name) or "")`. -/
def text (fields : List (String × Json)) (name : String) : String :=
  Json.orText objects.str (fields.lookup name) ""

end Objects

structure AuditRow (Obj : Type) where
  entry : Obj
  previousHash : Digest
  entryHash : Digest

def genesisHash : Digest :=
  .text "0000000000000000000000000000000000000000000000000000000000000000"

def nextHash (previous : Digest) (entry : Obj) : Option Digest :=
  (objects.canonicalEntry entry).map fun text => .pair previous (.text text)

/-- `max_audit_entries`: at least one, where there is one. -/
structure StoreConfig where
  maxAuditEntries : Option ℕ
  cap_pos : ∀ cap ∈ maxAuditEntries, 0 < cap

/-- The fields of an `InMemoryStateStore`. -/
structure MemoryStore (Obj : Type) where
  state : Keyed (Prod.fst : String × Obj → String) := .empty
  audit : List (AuditRow Obj) := []
  incidentTransitions : Keyed (Prod.fst : String × Obj → String) := .empty
  incidentNumberSequences : Keyed (Prod.fst : String × ℕ → String) := .empty

/-- The mapping under a key. -/
def MemoryStore.read (store : MemoryStore Obj) (key : String) : Option Obj :=
  (store.state.get key).map Prod.snd

/-- How an operation ends. -/
inductive Outcome where
  | applied
  | refused
  | raised
  deriving DecidableEq

variable (config : StoreConfig)

/-- The log is cut to half of its cap once it is longer. -/
def trim (rows : List (AuditRow Obj)) : List (AuditRow Obj) :=
  match config.maxAuditEntries with
  | none => rows
  | some cap => if cap < rows.length then rows.drop (rows.length - cap / 2) else rows

/-- `_append_audit_locked`; `none` where it raises. -/
def appendAudit (rows : List (AuditRow Obj)) (entry : Obj) : Option (List (AuditRow Obj)) := do
  let previousHash := (rows.getLast?.map AuditRow.entryHash).getD genesisHash
  let copy ← objects.deepcopy entry
  let entryHash ← nextHash objects previousHash entry
  return trim config (rows ++ [{ entry := copy, previousHash, entryHash }])

/-- The rows are chained, from a hash on; `none` where a hash raises. -/
def verifyFrom : Digest → List (AuditRow Obj) → Option Bool
  | _, [] => some true
  | previous, row :: rest =>
    if row.previousHash ≠ previous then some false
    else do
      let expected ← nextHash objects previous row.entry
      if row.entryHash ≠ expected then return false
      else verifyFrom row.entryHash rest

def verifyChain (store : MemoryStore Obj) : Option Bool :=
  verifyFrom objects genesisHash store.audit

/-- `_write_locked`, and whether it does not raise: the old row is gone either way. -/
def writeLocked (state : Keyed (Prod.fst : String × Obj → String)) (key : String) (value : Obj) :
    Keyed (Prod.fst : String × Obj → String) × Bool :=
  match objects.deepcopy value with
  | some copy => ((state.erase key).put (key, copy), true)
  | none => (state.erase key, false)

/-- Rows that are written one after the other, until one raises. -/
def writeRows (state : Keyed (Prod.fst : String × Obj → String)) :
    List (String × Obj) → Keyed (Prod.fst : String × Obj → String) × Bool
  | [] => (state, true)
  | (key, value) :: rest =>
    match writeLocked objects state key value with
    | (state, true) => writeRows state rest
    | (state, false) => (state, false)

/-- Rows that are written together with an entry of the log. What raises is undone: the rows of the
keys are restored, and the log is cut to its length before. -/
def combined (store : MemoryStore Obj) (guard : Option Bool) (keys : List String)
    (rows : List (String × Obj)) (auditEntry : Obj) : MemoryStore Obj × Outcome :=
  match guard with
  | none => (store, .raised)
  | some false => (store, .refused)
  | some true =>
    let snapshot := store.state.snapshot keys
    let auditLengthBefore := store.audit.length
    let undo (state : Keyed (Prod.fst : String × Obj → String)) (audit : List (AuditRow Obj)) :=
      { store with
        state := Keyed.restore snapshot state
        audit := audit.take auditLengthBefore }
    match writeRows objects store.state rows with
    | (state, false) => (undo state store.audit, .raised)
    | (state, true) =>
      match appendAudit objects config store.audit auditEntry with
      | none => (undo state store.audit, .raised)
      | some audit => ({ store with state, audit }, .applied)

/-- A row that is written alone. -/
def writeAlone (store : MemoryStore Obj) (key : String) (value : Obj) : MemoryStore Obj × Outcome :=
  let (state, written) := writeLocked objects store.state key value
  ({ store with state }, if written then .applied else .raised)

/-! ## Guards -/

/-- `existing.get("revision", 0) == expected`, or zero where nothing exists. -/
def revisionIs (existing : Option Obj) (expected : ℤ) : Bool :=
  match existing with
  | none => expected = 0
  | some value => ((objects.get value "revision").getD (.int 0)).pyEq (.int expected)

def secondInsertIsAllowed (store : MemoryStore Obj) (key : Option String) (value : Option Obj) :
    Bool :=
  match key with
  | none => true
  | some key =>
    match store.read key, value with
    | none, _ => true
    | some _, none => false
    | some existing, some value =>
      match objects.get existing "approval_profile_digest",
        objects.get value "approval_profile_digest" with
      | some digest, some expected => digest.pyEq expected
      | none, none => true
      | some .null, none | none, some .null => true
      | _, _ => false

/-- `workflow_approval_decisions_from_state`: the claims, sorted, unless one is malformed. -/
def approvalDecisions (record : Obj) : Option (List (String × String × String)) :=
  match objects.get record "decision_claims" with
  | some (.object claims) => do
    let decisions ← claims.mapM fun claim =>
      match claim.2 with
      | .object fields =>
        let principal := objects.casefold (strip (objects.text fields "principal"))
        let decision := objects.text fields "decision"
        let receiptRef := objects.text fields "receipt_ref"
        if principal = "" || (decision ≠ "approved" && decision ≠ "rejected") || receiptRef = "" then
          none
        else some (principal, decision, receiptRef)
      | _ => none
    return sortedBy (fun decision => toLex (decision.1, toLex decision.2)) decisions
  | _ => none

/-- What a guarded write expects of an approval. -/
structure ApprovalExpectation where
  revision : ℤ
  processId : String
  stepId : String
  attempt : ℤ
  requester : String
  quorum : ℤ
  noSelfApproval : Bool
  decisions : List (String × String × String)

def approvalGuardMatches (record : Option Obj) (expected : ApprovalExpectation)
    (evaluatedAt : Datetime) : Bool :=
  match record with
  | none => false
  | some record =>
    objects.fieldEq record "revision" (.int expected.revision) &&
    objects.fieldEq record "state" (.text "pending") &&
    objects.fieldEq record "process_id" (.text expected.processId) &&
    objects.fieldEq record "step_id" (.text expected.stepId) &&
    objects.fieldEq record "attempt" (.int expected.attempt) &&
    objects.fieldEq record "requester_principal" (.text expected.requester) &&
    objects.fieldEq record "quorum" (.int expected.quorum) &&
    objects.get record "no_self_approval" = some (.bool expected.noSelfApproval) &&
    approvalDecisions objects record = some expected.decisions &&
    match objects.get record "requested_at", objects.get record "expires_at" with
    | some (.text requested), some (.text expires) =>
      match evaluatedAt, objects.fromisoformat requested, objects.fromisoformat expires with
      | .aware now, some (.aware requestedAt), some (.aware expiresAt) =>
        requestedAt ≤ now && now < expiresAt
      | _, _, _ => false
    | _, _ => false

/-- `a < b` of datetimes; an aware one and a naive one are not compared. -/
def datetimeLt : Datetime → Datetime → Option Bool
  | .aware a, .aware b | .naive a, .naive b => some (a < b)
  | _, _ => none

/-- `not_before <= current < expires_at`, of aware datetimes only. -/
def isWithin (notBefore current expiresAt : Datetime) : Bool :=
  match notBefore, current, expiresAt with
  | .aware notBefore, .aware current, .aware expiresAt => notBefore ≤ current && current < expiresAt
  | _, _, _ => false

def writeState (store : MemoryStore Obj) (key : String) (value : Obj) : MemoryStore Obj × Outcome :=
  writeAlone objects store key value

def writeStateIfAbsent (store : MemoryStore Obj) (key : String) (value : Obj) :
    MemoryStore Obj × Outcome :=
  if (store.read key).isSome then (store, .refused) else writeAlone objects store key value

def compareAndSetState (store : MemoryStore Obj) (key : String) (value : Obj) (expectedRevision : ℤ) :
    MemoryStore Obj × Outcome :=
  if revisionIs objects (store.read key) expectedRevision then writeAlone objects store key value
  else (store, .refused)

def advanceStateWithEpoch (store : MemoryStore Obj) (key : String) (value : Obj)
    (expectedRevision : ℤ) (epochKey : String) (epochValue : Obj) (expectedEpochRevision : ℤ)
    (forbiddenKeys : List String) : MemoryStore Obj × Outcome :=
  if !revisionIs objects (store.read key) expectedRevision ||
      !revisionIs objects (store.read epochKey) expectedEpochRevision ||
      (expectedRevision = 0 && (store.read key).isSome) ||
      forbiddenKeys.any (fun forbidden => (store.read forbidden).isSome) then (store, .refused)
  else
    let (state, written) := writeRows objects store.state [(key, value), (epochKey, epochValue)]
    ({ store with state }, if written then .applied else .raised)

def deleteState (store : MemoryStore Obj) (key : String) : MemoryStore Obj × Outcome :=
  if key = "" then (store, .raised)
  else
    ({ store with state := store.state.erase key },
      if (store.read key).isSome then .applied else .refused)

/-- `delete_states_beyond`, of the rows that a filter on a field leaves; the number that it returns is
left out. The filter is validated before any row is deleted. -/
def deleteStatesBeyond (store : MemoryStore Obj) (keyPrefix : String) (retainNewest : ℤ)
    (matching : Option (Obj → Bool)) : MemoryStore Obj × Outcome :=
  if keyPrefix = "" || retainNewest < 1 then (store, .raised)
  else
    match matching with
    | none => (store, .raised)
    | some isMatch =>
      let newestFirst := (store.state.values.reverse.filter fun row =>
        keyPrefix.toList.isPrefixOf row.1.toList && isMatch row.2).map Prod.fst
      let expired := newestFirst.drop retainNewest.toNat
      ({ store with state := store.state.filter fun row => row.1 ∉ expired }, .applied)

/-! ## Combined writes -/

def writeStateWithAuditIfAbsent (store : MemoryStore Obj) (key : String) (value auditEntry : Obj) :
    MemoryStore Obj × Outcome :=
  combined objects config store (some (store.read key).isNone) [key] [(key, value)] auditEntry

def compareAndSetStateWithAudit (store : MemoryStore Obj) (key : String) (value : Obj)
    (expectedRevision : ℤ) (auditEntry : Obj) : MemoryStore Obj × Outcome :=
  combined objects config store (some (revisionIs objects (store.read key) expectedRevision)) [key]
    [(key, value)] auditEntry

/-- A row that is written where it is given. -/
def optionalRow (key : Option String) (value : Option Obj) : List (String × Obj) :=
  match key, value with
  | some key, some value => [(key, value)]
  | _, _ => []

def compareAndSetStateWithAuditAndInsert (store : MemoryStore Obj) (key : String) (value : Obj)
    (expectedRevision : ℤ) (insertKey : String) (insertValue : Obj) (insertKey2 : Option String)
    (insertValue2 : Option Obj) (auditEntry : Obj) : MemoryStore Obj × Outcome :=
  combined objects config store
    (some (revisionIs objects (store.read key) expectedRevision && (store.read insertKey).isNone &&
      secondInsertIsAllowed objects store insertKey2 insertValue2))
    (key :: insertKey :: insertKey2.toList)
    ((key, value) :: (insertKey, insertValue) :: optionalRow insertKey2 insertValue2) auditEntry

def writeStatePairWithAuditIfAbsent (store : MemoryStore Obj) (key : String) (value : Obj)
    (insertKey : String) (insertValue : Obj) (insertKey2 : Option String) (insertValue2 : Option Obj)
    (auditEntry : Obj) : MemoryStore Obj × Outcome :=
  combined objects config store (some ((store.read key).isNone && (store.read insertKey).isNone &&
      secondInsertIsAllowed objects store insertKey2 insertValue2))
    (key :: insertKey :: insertKey2.toList)
    ((key, value) :: (insertKey, insertValue) :: optionalRow insertKey2 insertValue2) auditEntry

/-- The source is fresh: it says until when, and that is not over. -/
def isFresh (source : Obj) (now : ℤ) : Bool :=
  match objects.fromisoformat (objects.text (objects.fields source) "fresh_until") with
  | some (.aware freshUntil) => now < freshUntil
  | _ => false

def confirmAssuranceTwinSource (store : MemoryStore Obj) (sourceKey : String) (sourceValue : Obj)
    (expectedSourceRevision : ℤ) (targetKey : String) (targetValue : Obj)
    (expectedTargetRevision : ℤ) (requireFresh : Bool) (now : ℤ) (auditEntry : Obj) :
    MemoryStore Obj × Outcome :=
  let guard :=
    match store.read sourceKey, store.read targetKey with
    | some source, some target =>
      revisionIs objects (some source) expectedSourceRevision &&
        revisionIs objects (some target) expectedTargetRevision &&
        (!requireFresh || isFresh objects source now)
    | _, _ => false
  combined objects config store (some guard) [sourceKey, targetKey]
    [(sourceKey, sourceValue), (targetKey, targetValue)] auditEntry

def conflictAssuranceTwinSource (store : MemoryStore Obj) (sourceKey : String) (sourceValue : Obj)
    (expectedSourceRevision : ℤ) (targetKey : String) (targetValue : Option Obj)
    (expectedTargetRevision : Option ℤ) (auditEntry : Obj) : MemoryStore Obj × Outcome :=
  let sourceMatches := (store.read sourceKey).isSome &&
    revisionIs objects (store.read sourceKey) expectedSourceRevision
  let targetMatches := targetValue.isNone || ((store.read targetKey).isSome &&
    expectedTargetRevision.any (revisionIs objects (store.read targetKey)))
  combined objects config store (some (sourceMatches && targetMatches)) [sourceKey, targetKey]
    ((sourceKey, sourceValue) :: (targetValue.toList.map fun value => (targetKey, value))) auditEntry

/-- `compare_and_set_state_with_approval_guard`, at the reading of the clock under the lock. -/
def compareAndSetStateWithApprovalGuard (store : MemoryStore Obj) (key : String) (value : Obj)
    (expectedRevision : ℤ) (approvalKey : String) (expected : ApprovalExpectation)
    (admissionVerifiedAt admissionValidUntil linearizedAt : Datetime) (auditEntry : Obj) :
    MemoryStore Obj × Outcome :=
  let guard : Option Bool :=
    if (store.read key).isNone || !revisionIs objects (store.read key) expectedRevision ||
        !approvalGuardMatches objects (store.read approvalKey) expected linearizedAt then some false
    else do
      let early ← datetimeLt linearizedAt admissionVerifiedAt
      if early then return false
      else datetimeLt linearizedAt admissionValidUntil
  combined objects config store guard [key] [(key, value)] auditEntry

def compareAndSetStatePairWithAudit (store : MemoryStore Obj) (key : String) (value : Obj)
    (expectedRevision : ℤ) (secondKey : String) (secondValue : Obj) (expectedSecondRevision : ℤ)
    (auditEntry : Obj) : MemoryStore Obj × Outcome :=
  let guard : Option Bool :=
    if expectedRevision < 0 || expectedSecondRevision < 0 || key = secondKey then none
    else some (revisionIs objects (store.read key) expectedRevision &&
      revisionIs objects (store.read secondKey) expectedSecondRevision &&
      !(expectedRevision = 0 && (store.read key).isSome) &&
      !(expectedSecondRevision = 0 && (store.read secondKey).isSome))
  combined objects config store guard [key, secondKey] [(key, value), (secondKey, secondValue)]
    auditEntry

def compareAndSetStateWithAuditAndInsertBefore (store : MemoryStore Obj) (key : String) (value : Obj)
    (expectedRevision : ℤ) (insertKey : String) (insertValue : Obj)
    (notBefore expiresAt currentTime : Datetime) (auditEntry : Obj) : MemoryStore Obj × Outcome :=
  combined objects config store (some (isWithin notBefore currentTime expiresAt &&
      revisionIs objects (store.read key) expectedRevision && (store.read insertKey).isNone))
    [key, insertKey] [(key, value), (insertKey, insertValue)] auditEntry

/-- A guard that is given as a whole, with the revision that is expected of it, or not at all. -/
def guardHolds (store : MemoryStore Obj) (guardKey : Option String) (guardValue : Option Obj)
    (expectedGuardRevision : Option ℤ) : Bool :=
  match guardKey, guardValue, expectedGuardRevision with
  | none, none, none => true
  | some key, some _, some revision => revisionIs objects (store.read key) revision
  | _, _, _ => false

def compareAndSetStatePairWithAuditBefore (store : MemoryStore Obj) (key : String) (value : Obj)
    (expectedRevision : ℤ) (secondKey : String) (secondValue : Obj) (expectedSecondRevision : ℤ)
    (notBefore expiresAt currentTime : Datetime) (insertKey : Option String)
    (insertValue : Option Obj) (guardKey : Option String) (guardValue : Option Obj)
    (expectedGuardRevision : Option ℤ) (auditEntry : Obj) : MemoryStore Obj × Outcome :=
  let guard :=
    isWithin notBefore currentTime expiresAt &&
      revisionIs objects (store.read key) expectedRevision &&
      revisionIs objects (store.read secondKey) expectedSecondRevision &&
      !(expectedRevision = 0 && (store.read key).isSome) &&
      !(expectedSecondRevision = 0 && (store.read secondKey).isSome) &&
      (insertKey.isNone = insertValue.isNone) &&
      insertKey.all (fun key => (store.read key).isNone) &&
      guardHolds objects store guardKey guardValue expectedGuardRevision
  combined objects config store (some guard) (key :: secondKey :: insertKey.toList ++ guardKey.toList)
    ((key, value) :: (secondKey, secondValue) :: (optionalRow insertKey insertValue ++
      optionalRow guardKey guardValue)) auditEntry

def appendAuditEntry (store : MemoryStore Obj) (entry : Obj) : MemoryStore Obj × Outcome :=
  match appendAudit objects config store.audit entry with
  | none => (store, .raised)
  | some audit => ({ store with audit }, .applied)

/-- What is decided of an incident, whatever rows it has: `classify_incident_append`, which applies an
entry, finds a duplicate or raises; and `incident_number_for`. -/
structure Incidents (Obj : Type) where
  classifyIncidentAppend : List Obj → Obj → Option Bool
  incidentNumberFor : String → ℕ → Option String

variable (incidents : Incidents Obj)

/-- `str(entry["idempotency_key"])`. -/
def idempotencyKey (entry : Obj) : Option String :=
  (objects.get entry "idempotency_key").map fun
    | .text key => key
    | value => objects.str value

def recordTransition (store : MemoryStore Obj) (entry : Obj) : MemoryStore Obj × Outcome :=
  match idempotencyKey objects entry, objects.deepcopy entry with
  | some key, some copy =>
    appendAuditEntry objects config
      { store with incidentTransitions := store.incidentTransitions.put (key, copy) } entry
  | _, _ => (store, .raised)

/-- The payloads of the transitions so far. -/
def MemoryStore.history (store : MemoryStore Obj) : List Obj :=
  store.incidentTransitions.values.map Prod.snd

def appendIncidentTransition (store : MemoryStore Obj) (entry : Obj) : MemoryStore Obj × Outcome :=
  if objects.fieldEq entry "kind" (.text "incident.open") then (store, .raised)
  else
    match incidents.classifyIncidentAppend store.history entry with
    | none => (store, .raised)
    | some false => (store, .refused)
    | some true => recordTransition objects config store entry

def appendIncidentOpen (store : MemoryStore Obj) (entry : Obj) (numberPrefix : String) :
    MemoryStore Obj × Outcome :=
  if !objects.fieldEq entry "kind" (.text "incident.open") then (store, .raised)
  else
    match incidents.classifyIncidentAppend store.history entry with
    | none => (store, .raised)
    | some false => (store, .refused)
    | some true =>
      let sequence := ((store.incidentNumberSequences.get numberPrefix).map Prod.snd).getD 0
      match incidents.incidentNumberFor numberPrefix sequence, idempotencyKey objects entry with
      | some number, some _ =>
        recordTransition objects config
          { store with
            incidentNumberSequences := store.incidentNumberSequences.put (numberPrefix, sequence + 1) }
          (objects.withText entry "incident_number" number)
      | _, _ => (store, .raised)

end Fdai.Providers.Memory
