import Fdai.Incident.AuditEntries

/-!
# Lifecycle replay

What a registry is rebuilt from after a restart: the audit rows, folded in their order into
an index. The replay fails at the first row that does not fit the rows before it.

* `replayRow` — one row.
* `rehydrateIncidents` — all of them.
-/

namespace Fdai.Core

open Fdai.Sequences

/-- Why a row cannot be replayed. -/
inductive IncidentReplayError where
  | emptyString (field : String)
  | emptyStringList (field : String)
  | idMismatch (incidentId : Uuid)
  | precedesOpen (kind : String) (incidentId : Uuid)
  | severityMismatch (incidentId : Uuid)
  | notMoreSevere
  | assigneeMismatch (incidentId : Uuid)
  | fromStateMismatch (incidentId : Uuid) (audit current : IncidentState)
  | fromSeverityMismatch (incidentId : Uuid) (audit current : IncidentSeverity)
  | severityOutsideReopen
  | conflictingOpen (incidentId : Uuid)
  | invalid (message : String)
  deriving DecidableEq

/-- The result of one check or step of the replay. -/
abbrev Replayed := Except IncidentReplayError

def requiredString (field value : String) : Replayed String :=
  if value = "" then .error (.emptyString field) else .ok value

def optionalString (value : Option String) : Option String := value.filter (· ≠ "")

@[simp] theorem optionalString_none : optionalString none = none := rfl

@[simp] theorem optionalString_empty : optionalString (some "") = none := rfl

theorem optionalString_text {text : String} (nonempty : text ≠ "") :
    optionalString (some text) = some text := by
  rw [optionalString, Option.filter_some, if_pos (by simpa using nonempty)]

/-- `_required_string_list`, of texts. -/
def requiredStringList (field : String) (values : List String) : Replayed (List String) :=
  if values = [] ∨ "" ∈ values then .error (.emptyStringList field) else .ok values

/-- `_required_string_list`, of ids: an id has no empty text. -/
def requiredIdList (field : String) (values : List Uuid) : Replayed (List Uuid) :=
  if values = [] then .error (.emptyStringList field) else .ok values

/-- A `ValueError` of a function the replay calls. -/
def orInvalid {α : Type} : Except String α → Replayed α
  | .ok value => .ok value
  | .error message => .error (.invalid message)

theorem orInvalid_eq_ok {α : Type} {checked : Except String α} {value : α} :
    orInvalid checked = .ok value ↔ checked = .ok value := by
  cases checked <;> simp [orInvalid]

def requireExistingIncident (restored : Incidents) (incidentId : Uuid) (kind : String) :
    Replayed Incident :=
  match restored.get incidentId with
  | some current => .ok current
  | none => .error (.precedesOpen kind incidentId)

theorem distinctMembers_ne_nil {members : List Uuid} (nonempty : members ≠ []) :
    distinctMembers members ≠ [] := by
  cases members with
  | nil => exact absurd rfl nonempty
  | cons member rest => simp [distinctMembers]

def Incident.withMembers (incident : Incident) (added : List Uuid) : Incident :=
  { incident with
    memberEventIds := distinctMembers (incident.memberEventIds ++ added)
    members_nonempty := distinctMembers_ne_nil (by simp [incident.members_nonempty]) }

def incidentFromOpenEntry (entry : OpenEntry) : Replayed Incident := do
  let correlationKeys ← requiredStringList "correlation_keys" entry.correlationKeys
  let expectedId ← orInvalid (incidentIdFor correlationKeys)
  if entry.incidentId ≠ expectedId then
    .error (.idMismatch entry.incidentId)
  else do
    let memberEventIds ← requiredIdList "member_event_ids" entry.memberEventIds
    orInvalid (Incident.create entry.incidentId (optionalString entry.incidentNumber) entry.state
      entry.severity entry.openedAt correlationKeys memberEventIds
      (optionalString entry.assigneeOid))

def mergeReplayedOpen (existing replayed : Incident) : Replayed Incident :=
  if existing.correlationKeys ≠ replayed.correlationKeys ∨
      existing.incidentNumber ≠ replayed.incidentNumber ∨
      existing.severity ≠ replayed.severity ∨ existing.state ≠ .opened ∨
      replayed.state ≠ .opened then
    .error (.conflictingOpen existing.incidentId)
  else
    .ok { existing.withMembers replayed.memberEventIds with
          openedAt :=
            if replayed.openedAt.instant < existing.openedAt.instant then replayed.openedAt
            else existing.openedAt
          assigneeOid := (optionalString existing.assigneeOid).or replayed.assigneeOid }

/-- The branch of `incident.open`. -/
def replayOpen (restored : Incidents) (entry : OpenEntry) : Replayed Incidents := do
  let opened ← incidentFromOpenEntry entry
  match restored.get opened.incidentId with
  | none => pure (restored.put opened)
  | some existing => do
    let merged ← mergeReplayedOpen existing opened
    pure (restored.put merged)

def replayMembers (restored : Incidents) (entry : MembersEntry) : Replayed Incidents := do
  let current ← requireExistingIncident restored entry.incidentId "members"
  let added ← requiredIdList "member_event_ids" entry.memberEventIds
  pure (restored.put (current.withMembers added))

def replaySeverity (restored : Incidents) (entry : SeverityEntry) : Replayed Incidents := do
  let current ← requireExistingIncident restored entry.incidentId "severity"
  if current.severity ≠ entry.fromSeverity then
    .error (.severityMismatch current.incidentId)
  else if current.severity.rank ≤ entry.severity.rank then
    .error .notMoreSevere
  else
    pure (restored.put { current with severity := entry.severity })

def replayAssignment (restored : Incidents) (entry : AssignedEntry) : Replayed Incidents := do
  let current ← requireExistingIncident restored entry.incidentId "assignment"
  let target := optionalString entry.assigneeOid
  if current.assigneeOid = target then
    pure restored
  else if current.assigneeOid ≠ optionalString entry.fromAssigneeOid then
    .error (.assigneeMismatch current.incidentId)
  else
    pure (restored.put { current with assigneeOid := target })

def replayTransition (restored : Incidents) (entry : TransitionEntry) : Replayed Incidents := do
  let current ← requireExistingIncident restored entry.incidentId "transition"
  if current.state ≠ entry.fromState then
    .error (.fromStateMismatch entry.incidentId entry.fromState current.state)
  else do
    let actorOid ← requiredString "actor_oid" entry.actorOid
    let transition ← orInvalid (IncidentTransition.create entry.incidentId entry.fromState
      entry.toState actorOid (.aware entry.moment) (optionalString entry.reason))
    orInvalid (IncidentStateMachine.validate current.state transition.toState)
    if current.severity ≠ entry.fromSeverity then
      .error (.fromSeverityMismatch entry.incidentId entry.fromSeverity current.severity)
    else if entry.severity ≠ current.severity ∧
        ¬ (current.state = .resolved ∧ transition.toState = .triaging) then
      .error .severityOutsideReopen
    else
      pure (restored.put (applyIncidentTransition current transition entry.severity))

def replayRow (restored : Incidents) : Row → Replayed Incidents
  | .opened entry => replayOpen restored entry
  | .members entry => replayMembers restored entry
  | .severity entry => replaySeverity restored entry
  | .assigned entry => replayAssignment restored entry
  | .ticket entry => do
    let _ ← requireExistingIncident restored entry.incidentId "ticket"
    pure restored
  | .transition entry => replayTransition restored entry

def rehydrateIncidents (entries : List Row) : Replayed Incidents :=
  entries.foldlM replayRow Keyed.empty

/-- **One more row.** -/
theorem rehydrateIncidents_append (entries : List Row) (row : Row) :
    rehydrateIncidents (entries ++ [row]) =
      rehydrateIncidents entries >>= fun restored => replayRow restored row := by
  simp [rehydrateIncidents]

theorem rehydrateIncidents_error {entries later : List Row} {error : IncidentReplayError}
    (fails : rehydrateIncidents entries = .error error) :
    rehydrateIncidents (entries ++ later) = .error error := by
  unfold rehydrateIncidents at fails ⊢
  rw [List.foldlM_append, fails]
  rfl

end Fdai.Core
