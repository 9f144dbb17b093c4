import Fdai.Incident.Replay

/-!
# The incident store

Lifecycle rows are appended one at a time. The store admits a row by looking at the rows
it already has: a row whose intent is on record is a duplicate, one whose expected state is
not the current one is a conflict.

* `classifyIncidentAppend` — what the store decides about a row.
* `IncidentStore.append`, `IncidentStore.appendOpen` — the two ways in; an opening gets an
  incident number.
-/

namespace Fdai.Core

inductive IncidentAppendStatus where
  | applied | duplicate
  deriving DecidableEq

/-- What an `IncidentWriteConflictError` is about, in the store or in the registry. -/
inductive WriteConflict where
  -- the store
  | payload (key : IdempotencyKey)
  | conflictingOpen (incidentId : Uuid)
  | precedesOpen (kind : String) (incidentId : Uuid)
  | state (incidentId : Uuid) (expected current : IncidentState)
  | assignee (incidentId : Uuid)
  | severity (incidentId : Uuid) (expected current : IncidentSeverity)
  | notMoreSevere
  -- the registry
  | manyActive
  | missing (incidentId : Uuid)
  | notConverged (incidentId : Uuid)
  | staleSameState (incidentId : Uuid) (canonical : IncidentState)
  | staleSameAssignee (incidentId : Uuid)
  | differsAfterDuplicate (incidentId : Uuid)
  deriving DecidableEq

/-- What an incident operation raises. -/
inductive IncidentError where
  | value (message : String)
  | unknownIncident (incidentId : Uuid)
  | conflict (why : WriteConflict)
  | replay (why : IncidentReplayError)
  /-- An exception of the projection. -/
  | projection
  deriving DecidableEq

def incidentHistory (history : List Row) (incidentId : Uuid) : List Row :=
  history.filter (·.incidentId = incidentId)

def openedRow (history : List Row) (incidentId : Uuid) : Option OpenEntry :=
  (incidentHistory history incidentId).findSome? fun
    | .opened entry => some entry
    | _ => none

def rowState (state : IncidentState) : Row → IncidentState
  | .transition entry => entry.toState
  | _ => state

def rowAssignee (assignee : Option String) : Row → Option String
  | .assigned entry => entry.assigneeOid
  | _ => assignee

def rowSeverity (severity : IncidentSeverity) : Row → IncidentSeverity
  | .severity entry => entry.severity
  | .transition entry => entry.severity
  | _ => severity

def currentState (history : List Row) (opened : OpenEntry) : IncidentState :=
  (incidentHistory history opened.incidentId).foldl rowState opened.state

def currentAssignee (history : List Row) (opened : OpenEntry) : Option String :=
  (incidentHistory history opened.incidentId).foldl rowAssignee opened.assigneeOid

def currentSeverity (history : List Row) (opened : OpenEntry) : IncidentSeverity :=
  (incidentHistory history opened.incidentId).foldl rowSeverity opened.severity

def sameIncidentIntent : Row → Row → Bool
  | .members existing, .members incoming =>
    existing.incidentId = incoming.incidentId &&
      (existing.memberEventIds : Multiset Uuid) = incoming.memberEventIds
  | .opened existing, .opened incoming =>
    existing.incidentId = incoming.incidentId && existing.state = incoming.state &&
      existing.severity = incoming.severity && existing.assigneeOid = incoming.assigneeOid &&
      existing.correlationKeys = incoming.correlationKeys
  -- every field of these two rows is compared
  | .transition existing, .transition incoming => existing = incoming
  | .severity existing, .severity incoming => existing = incoming
  | .assigned existing, .assigned incoming =>
    existing.incidentId = incoming.incidentId &&
      existing.fromAssigneeOid = incoming.fromAssigneeOid &&
      existing.assigneeOid = incoming.assigneeOid && existing.actorOid = incoming.actorOid &&
      existing.moment = incoming.moment
  | .ticket existing, .ticket incoming =>
    existing.incidentId = incoming.incidentId && existing.provider = incoming.provider &&
      existing.ticketId = incoming.ticketId && existing.ticketUrl = incoming.ticketUrl
  | _, _ => false

/-- The checks of a row of an incident that is open, by the kind of the row. -/
def classifyOpened (history : List Row) (opened : OpenEntry) :
    Row → Except WriteConflict IncidentAppendStatus
  | .opened entry =>
    if sameIncidentIntent (.opened opened) (.opened entry) then .ok .duplicate
    else .error (.conflictingOpen entry.incidentId)
  | .transition entry =>
    let current := currentState history opened
    if current = entry.toState then .ok .duplicate
    else if current ≠ entry.fromState then
      .error (.state entry.incidentId entry.fromState current)
    else .ok .applied
  | .assigned entry =>
    let current := currentAssignee history opened
    if current = entry.assigneeOid then .ok .duplicate
    else if current ≠ entry.fromAssigneeOid then .error (.assignee entry.incidentId)
    else .ok .applied
  | .severity entry =>
    let current := currentSeverity history opened
    if current = entry.severity then .ok .duplicate
    else if current ≠ entry.fromSeverity then
      .error (.severity entry.incidentId entry.fromSeverity current)
    else if current.rank ≤ entry.severity.rank then .error .notMoreSevere
    else .ok .applied
  | .members _ => .ok .applied
  | .ticket _ => .ok .applied

def classifyIncidentAppend (history : List Row) (entry : Row) :
    Except WriteConflict IncidentAppendStatus :=
  match history.find? (·.idempotencyKey = entry.idempotencyKey) with
  | some duplicate =>
    if sameIncidentIntent duplicate entry then .ok .duplicate
    else .error (.payload entry.idempotencyKey)
  | none =>
    match openedRow history entry.incidentId, entry with
    | none, .opened _ => .ok .applied
    | none, _ => .error (.precedesOpen entry.kind entry.incidentId)
    | some opened, _ => classifyOpened history opened entry

/-- The rows in the order they were appended, and the next number of each month. -/
structure IncidentStore where
  rows : List Row := []
  sequences : String → ℕ := fun _ => 0

/-- A decimal digit. -/
def digit (n : ℕ) : Char := Char.ofNat (48 + n % 10)

def incidentNumberFor (numberPrefix : String) (sequence : ℕ) : Except String String :=
  let digits := numberPrefix.toList.drop 4
  let number (ds : List Char) : ℕ := ds.foldl (fun n d => 10 * n + (d.toNat - 48)) 0
  let year := number (digits.take 4)
  let month := number (digits.drop 4)
  if !isNumberPrefix numberPrefix then
    .error "incident number prefix MUST match INC-YYYYMM"
  else if year < 1 ∨ month < 1 ∨ 12 < month then
    .error "incident number prefix MUST contain a valid UTC year and month"
  else if 9999 < sequence then
    .error "incident number sequence MUST be between 0 and 9999"
  else
    .ok (String.ofList (numberPrefix.toList ++ ['-', digit (sequence / 1000),
      digit (sequence / 100), digit (sequence / 10), digit sequence]))

namespace IncidentStore

/-- `append_incident_transition`. -/
def append (store : IncidentStore) (entry : Row) :
    Except IncidentError IncidentAppendStatus × IncidentStore :=
  match entry with
  | .opened _ => (.error (.value "incident.open MUST use append_incident_open"), store)
  | _ =>
    match classifyIncidentAppend store.rows entry with
    | .error why => (.error (.conflict why), store)
    | .ok .duplicate => (.ok .duplicate, store)
    | .ok .applied => (.ok .applied, { store with rows := store.rows ++ [entry] })

/-- `append_incident_open`. -/
def appendOpen (store : IncidentStore) (entry : Row) (numberPrefix : String) :
    Except IncidentError (IncidentAppendStatus × Option String) × IncidentStore :=
  match entry with
  | .opened opened =>
    match classifyIncidentAppend store.rows entry with
    | .error why => (.error (.conflict why), store)
    | .ok .duplicate =>
      let existing := openedRow store.rows opened.incidentId
      (.ok (.duplicate, existing.bind (·.incidentNumber)), store)
    | .ok .applied =>
      let sequence := store.sequences numberPrefix
      match incidentNumberFor numberPrefix sequence with
      | .error message => (.error (.value message), store)
      | .ok incidentNumber =>
        (.ok (.applied, some incidentNumber),
          { rows :=
              store.rows ++ [.opened { opened with incidentNumber := some incidentNumber }]
            sequences := Function.update store.sequences numberPrefix (sequence + 1) })
  | _ => (.error (.value "append_incident_open requires kind=incident.open"), store)

end IncidentStore

end Fdai.Core
