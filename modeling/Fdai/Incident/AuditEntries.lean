import Mathlib.Data.Multiset.Basic
import Fdai.Incident.Models

/-!
# Lifecycle audit rows

The rows that the lifecycle of an incident is made of, and their builders. A row has one
field for each entry of its mapping that the code reads back; ids, states, severities and
times are kept as what their texts stand for.

* `Row` — the rows, by kind.
* `Row.idempotencyKey` — the key a row is stored under.
* `openAuditEntry`, …, `ticketAuditEntry` — the builders.
-/

namespace Fdai.Core

/-! ## Rows -/

/-- `incident.open`. -/
structure OpenEntry where
  incidentId : Uuid
  severity : IncidentSeverity
  state : IncidentState
  actorOid : String
  openedAt : Moment
  assigneeOid : Option String
  correlationKeys : List String
  memberEventIds : List Uuid
  /-- Only a stored row has it. -/
  incidentNumber : Option String := none

/-- `incident.members`. -/
structure MembersEntry where
  incidentId : Uuid
  severity : IncidentSeverity
  state : IncidentState
  actorOid : String
  moment : Moment
  memberEventIds : List Uuid

/-- `incident.severity`. -/
structure SeverityEntry where
  incidentId : Uuid
  state : IncidentState
  fromSeverity : IncidentSeverity
  severity : IncidentSeverity
  actorOid : String
  moment : Moment
  deriving DecidableEq

/-- `incident.assigned`. -/
structure AssignedEntry where
  incidentId : Uuid
  severity : IncidentSeverity
  state : IncidentState
  fromAssigneeOid : Option String
  assigneeOid : Option String
  actorOid : String
  moment : Moment

/-- `incident.ticket`. -/
structure TicketEntry where
  incidentId : Uuid
  provider : String
  ticketId : String
  ticketUrl : Option String
  actorOid : String
  moment : Moment

/-- `incident.transition`. -/
structure TransitionEntry where
  incidentId : Uuid
  fromState : IncidentState
  toState : IncidentState
  fromSeverity : IncidentSeverity
  severity : IncidentSeverity
  actorOid : String
  moment : Moment
  reason : Option String
  deriving DecidableEq

/-- A lifecycle row. -/
inductive Row where
  | opened (entry : OpenEntry)
  | members (entry : MembersEntry)
  | severity (entry : SeverityEntry)
  | assigned (entry : AssignedEntry)
  | ticket (entry : TicketEntry)
  | transition (entry : TransitionEntry)

/-- An idempotency key, by the parts its text is made of: no text has two readings. The
digest of the members is one of their sorted ids, so of the ids in any order. -/
inductive IdempotencyKey where
  | opened (incidentId : Uuid)
  | members (incidentId : Uuid) (added : Multiset Uuid)
  | severity (incidentId : Uuid) (target : IncidentSeverity)
  | assigned (incidentId : Uuid) (target : String) (moment : Moment)
  | ticket (incidentId : Uuid) (fingerprint : String)
  | transition (incidentId : Uuid) (fromState toState : IncidentState) (actorOid : String)
      (moment : Moment)
  deriving DecidableEq

namespace Row

def incidentId : Row → Uuid
  | .opened entry => entry.incidentId
  | .members entry => entry.incidentId
  | .severity entry => entry.incidentId
  | .assigned entry => entry.incidentId
  | .ticket entry => entry.incidentId
  | .transition entry => entry.incidentId

def kind : Row → String
  | .opened _ => "incident.open"
  | .members _ => "incident.members"
  | .severity _ => "incident.severity"
  | .assigned _ => "incident.assigned"
  | .ticket _ => "incident.ticket"
  | .transition _ => "incident.transition"

def idempotencyKey : Row → IdempotencyKey
  | .opened entry => .opened entry.incidentId
  | .members entry => .members entry.incidentId entry.memberEventIds
  | .severity entry => .severity entry.incidentId entry.severity
  | .assigned entry =>
    -- `assignee_oid or "unassigned"`
    let target := (entry.assigneeOid.filter (· ≠ "")).getD "unassigned"
    .assigned entry.incidentId target entry.moment
  | .ticket entry => .ticket entry.incidentId (entry.provider ++ "\x00" ++ entry.ticketId)
  | .transition entry =>
    .transition entry.incidentId entry.fromState entry.toState entry.actorOid entry.moment

end Row

/-- `_require_actor_and_time`: the actor, stripped, and the time. -/
def requireActorAndTime (actorOid : String) (at_ : Stamp) : Except String (String × Moment) :=
  if strip actorOid = "" then .error "incident audit actor_oid MUST be non-empty"
  else match at_ with
  | .naive => .error "incident audit timestamp MUST be timezone-aware"
  | .aware moment => .ok (strip actorOid, moment)

def openAuditEntry (incident : Incident) (actorOid : String) : Except String Row := do
  let (actor, _) ← requireActorAndTime actorOid (.aware incident.openedAt)
  pure (.opened
    { incidentId := incident.incidentId
      severity := incident.severity
      state := .opened
      actorOid := actor
      openedAt := incident.openedAt
      assigneeOid := incident.assigneeOid
      correlationKeys := incident.correlationKeys
      memberEventIds := incident.memberEventIds })

def transitionAuditEntry (transition : IncidentTransition) (incident : Incident)
    (targetSeverity : IncidentSeverity) : Row :=
  .transition
    { incidentId := transition.incidentId
      fromState := transition.fromState
      toState := transition.toState
      fromSeverity := incident.severity
      severity := targetSeverity
      actorOid := transition.actorOid
      moment := transition.moment
      reason := transition.reason }

def membersAuditEntry (incident : Incident) (addedMemberEventIds : List Uuid)
    (actorOid : String) (at_ : Stamp) : Except String Row := do
  let (actor, moment) ← requireActorAndTime actorOid at_
  pure (.members
    { incidentId := incident.incidentId
      severity := incident.severity
      state := incident.state
      actorOid := actor
      moment
      memberEventIds := addedMemberEventIds })

def severityAuditEntry (incident : Incident) (targetSeverity : IncidentSeverity)
    (actorOid : String) (at_ : Stamp) : Except String Row := do
  let (actor, moment) ← requireActorAndTime actorOid at_
  pure (.severity
    { incidentId := incident.incidentId
      state := incident.state
      fromSeverity := incident.severity
      severity := targetSeverity
      actorOid := actor
      moment })

def assignmentAuditEntry (incident : Incident) (assigneeOid : Option String)
    (actorOid : String) (at_ : Stamp) : Except String Row := do
  let (actor, moment) ← requireActorAndTime actorOid at_
  pure (.assigned
    { incidentId := incident.incidentId
      severity := incident.severity
      state := incident.state
      fromAssigneeOid := incident.assigneeOid
      assigneeOid
      actorOid := actor
      moment })

/-- `IncidentTicketLink`, with what its constructor checks of its texts. -/
structure IncidentTicketLink where
  incidentId : Uuid
  provider : String
  ticketId : String
  ticketUrl : Option String
  linkedAt : Moment
  linkedBy : String
  deriving DecidableEq

/-- The constructor of a ticket link. -/
def IncidentTicketLink.create (incidentId : Uuid) (provider ticketId : String)
    (ticketUrl : Option String) (linkedAt : Stamp) (linkedBy : String) :
    Except String IncidentTicketLink :=
  match linkedAt with
  | .aware moment =>
    if strip provider ≠ "" ∧ strip ticketId ≠ "" ∧ strip linkedBy ≠ "" then
      .ok { incidentId, provider, ticketId, ticketUrl, linkedAt := moment, linkedBy }
    else .error "incident ticket link requires non-empty fields and aware linked_at"
  | .naive => .error "incident ticket link requires non-empty fields and aware linked_at"

def ticketAuditEntry (link : IncidentTicketLink) : Row :=
  .ticket
    { incidentId := link.incidentId
      provider := link.provider
      ticketId := link.ticketId
      ticketUrl := link.ticketUrl
      actorOid := link.linkedBy
      moment := link.linkedAt }

end Fdai.Core
