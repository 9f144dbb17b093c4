import Fdai.Concurrency.Machine
import Fdai.Incident.Store

/-!
# The incident registry

A registry keeps an index of incidents and writes a lifecycle row before it changes the
index. Several registries may share one store; the index of each is then as old as its
last reload.

Every operation is a program over the calls of `RegistryOp`: the registry's own index, the
store, and the outside (clocks and the projection).

* `openWithStatus`, `transitionWithStatus`, `assignWithStatus`, `linkTicket`, `rehydrate` —
  the operations.
* `RegistryWorld`, `registryMachine` — any number of registries over one store.
-/

namespace Fdai.Core

open Fdai.Sequences Fdai.Concurrency

/-! ## Calls -/

/-- What a registry calls. -/
inductive RegistryOp where
  -- the index of a registry
  | getIndex (registry : ℕ)
  | putIncident (registry : ℕ) (incident : Incident)
  | setIndex (registry : ℕ) (incidents : Incidents)
  -- the store
  | append (entry : Row)
  | appendOpen (entry : Row) (numberPrefix : String)
  | readTransitions
  -- the outside
  | now
  | numberClock
  | project (registry : ℕ) (incident : Incident) (updatedAt : Stamp)

/-- The answers. The number clock answers with the number prefix of its month, or `none`
where it returned a naive datetime; the projection answers whether it returned. -/
def RegistryOp.Ans : RegistryOp → Type
  | .getIndex _ => Incidents
  | .putIncident _ _ => Unit
  | .setIndex _ _ => Unit
  | .append _ => Except IncidentError IncidentAppendStatus
  | .appendOpen _ _ => Except IncidentError (IncidentAppendStatus × Option String)
  | .readTransitions => List Row
  | .now => Moment
  | .numberClock => Option String
  | .project _ _ _ => Bool

/-- A program of a registry. -/
abbrev Registering (α : Type) := Program RegistryOp RegistryOp.Ans IncidentError α

namespace Registering

/-- Make one call. -/
def ask (op : RegistryOp) : Registering op.Ans := Program.invoke op

/-- A check that raises a `ValueError`. -/
def checked {α : Type} : Except String α → Registering α
  | .ok value => pure value
  | .error message => throw (.value message)

def project (registry : ℕ) (incident : Incident) (updatedAt : Stamp) : Registering Unit := do
  let returned : Bool ← ask (.project registry incident updatedAt)
  if returned then pure () else throw .projection

/-- `at or datetime.now(tz=UTC)`. -/
def orNow : Option Stamp → Registering Stamp
  | some stamp => pure stamp
  | none => do
    let moment : Moment ← ask .now
    pure (.aware moment)

/-- `opened_at or datetime.now(tz=UTC)`, of an aware `opened_at`. -/
def momentOrNow : Option Moment → Registering Moment
  | some moment => pure moment
  | none => ask .now

end Registering

open Registering

structure IncidentOpenResult where
  incident : Incident
  created : Bool
  severityChanged : Bool := false
  previousSeverity : Option IncidentSeverity := none
  deriving DecidableEq

structure IncidentMutationResult where
  incident : Incident
  changed : Bool
  deriving DecidableEq

section

variable (registry : ℕ)

def reloadCanonical (incidentId : Uuid) : Registering Incident := do
  let entries : List Row ← ask .readTransitions
  match rehydrateIncidents entries with
  | .error why => throw (.replay why)
  | .ok restored => do
    ask (.setIndex registry restored)
    match restored.get incidentId with
    | some incident => pure incident
    | none => throw (.conflict (.missing incidentId))

/-- `_persist`: a conflict reloads the index before it is raised. -/
def persist (entry : Row) (incidentId : Uuid) : Registering IncidentAppendStatus := do
  let appended : Except IncidentError IncidentAppendStatus ← ask (.append entry)
  match appended with
  | .ok status => pure status
  | .error (.conflict why) => do
    let _ ← reloadCanonical registry incidentId
    throw (.conflict why)
  | .error other => throw other

def persistOpen (entry : Row) (incidentId : Uuid) (numberPrefix : String) :
    Registering (IncidentAppendStatus × Option String) := do
  let appended : Except IncidentError (IncidentAppendStatus × Option String) ←
    ask (.appendOpen entry numberPrefix)
  match appended with
  | .ok result => pure result
  | .error (.conflict why) => do
    let _ ← reloadCanonical registry incidentId
    throw (.conflict why)
  | .error other => throw other

/-! ## Opening -/

/-- The arguments of `open_with_status`. -/
structure OpenRequest where
  correlationKeys : List String
  severity : IncidentSeverity
  memberEventIds : List Uuid
  actorOid : String
  openedAt : Option Stamp := none
  assigneeOid : Option String := none

/-- A key of a detector episode. -/
def isEpisodeKey (key : String) : Bool := "episode:".toList.isPrefixOf key.toList

/-- The keys that are not of an episode. -/
def baseKeys (keys : List String) : List String := keys.filter fun key => !isEpisodeKey key

/-- Two lists with the same elements. -/
def sameSet (keys keys' : List String) : Bool :=
  keys.all (· ∈ keys') && keys'.all (· ∈ keys)

def activeIncidentForEpisode (incidents : Incidents) (correlationKeys : List String) :
    Except IncidentError (Option Incident) :=
  if !correlationKeys.any isEpisodeKey then .ok none
  else
    let found := incidents.values.filter fun incident =>
      incident.state ≠ .resolved && incident.state ≠ .closed &&
        sameSet (baseKeys incident.correlationKeys) (baseKeys correlationKeys)
    if 1 < found.length then .error (.conflict .manyActive)
    else .ok found.head?

/-- One attempt of `_persist` of a severity row; `none` where it conflicted. -/
def tryPersist (entry : Row) (incidentId : Uuid) : Registering (Option IncidentAppendStatus) :=
  Program.tryCatch (some <$> persist registry entry incidentId) fun
    | .conflict _ => pure none
    | other => throw other

/-- `_escalate_severity_if_needed`, with the attempts that are left. -/
def escalateSeverityIfNeeded (target : IncidentSeverity) (actorOid : String) (at_ : Stamp) :
    ℕ → Incident → Registering (Incident × Bool × Option IncidentSeverity)
  | 0, canonical => throw (.conflict (.notConverged canonical.incidentId))
  | attempts + 1, canonical =>
    if canonical.severity.rank ≤ target.rank then pure (canonical, false, none)
    else do
      let entry ← checked (severityAuditEntry canonical target actorOid at_)
      match ← tryPersist registry entry canonical.incidentId with
      | none => do
        let canonical ← reloadCanonical registry canonical.incidentId
        escalateSeverityIfNeeded target actorOid at_ attempts canonical
      | some .duplicate => do
        let canonical ← reloadCanonical registry canonical.incidentId
        pure (canonical, false, none)
      | some .applied => do
        let updated := { canonical with severity := target }
        ask (.putIncident registry updated)
        project registry updated at_
        pure (updated, true, some canonical.severity)

/-- An incident with more members, as they come. -/
def Incident.addMembers (incident : Incident) (added : List Uuid) : Incident :=
  { incident with
    memberEventIds := incident.memberEventIds ++ added
    members_nonempty := by simp [incident.members_nonempty] }

/-- The members of a request that an incident does not have. -/
def addedMembers (members : List Uuid) (incident : Incident) : List Uuid :=
  members.filter (· ∉ incident.memberEventIds)

/-- The branch of an incident that exists. -/
def growIncident (request : OpenRequest) (existing : Incident) :
    Registering IncidentOpenResult := do
  let escalatedAt ← orNow request.openedAt
  let (existing, severityChanged, previousSeverity) ← escalateSeverityIfNeeded registry
    request.severity request.actorOid escalatedAt 2 existing
  let added := addedMembers request.memberEventIds existing
  let updated := existing.addMembers added
  if updated.memberEventIds = existing.memberEventIds then
    pure { incident := existing, created := false, severityChanged, previousSeverity }
  else do
    let at_ ← orNow request.openedAt
    let entry ← checked (membersAuditEntry updated added request.actorOid at_)
    match ← persist registry entry existing.incidentId with
    | .duplicate => do
      let existing ← reloadCanonical registry existing.incidentId
      pure { incident := existing, created := false, severityChanged, previousSeverity }
    | .applied => do
      ask (.putIncident registry updated)
      pure { incident := updated, created := false, severityChanged, previousSeverity }

/-- The rest of an opening that another registry was first with. -/
def joinIncident (request : OpenRequest) (openedAt : Moment) (incidentId : Uuid) :
    Registering IncidentOpenResult := do
  let canonical ← reloadCanonical registry incidentId
  let added := addedMembers request.memberEventIds canonical
  if added = [] then
    pure { incident := canonical, created := false }
  else do
    let entry ← checked (membersAuditEntry (canonical.addMembers added) added
      request.actorOid (.aware openedAt))
    let _ ← persist registry entry incidentId
    let canonical ← reloadCanonical registry incidentId
    pure { incident := canonical, created := false }

/-- The branch of an incident that the index does not have. -/
def createIncident (request : OpenRequest) (keys : List String) (openedAt : Option Moment)
    (incidentId : Uuid) : Registering IncidentOpenResult := do
  let opened ← momentOrNow openedAt
  let numberedAt : Option String ← ask .numberClock
  match numberedAt with
  | none => throw (.value "incident number clock MUST return a timezone-aware datetime")
  | some numberPrefix => do
    let incident ← checked (Incident.create incidentId none .opened request.severity opened
      (sortedSet (keys.filter (· ≠ ""))) (distinctMembers request.memberEventIds)
      request.assigneeOid)
    let entry ← checked (openAuditEntry incident request.actorOid)
    let appended ← persistOpen registry entry incidentId numberPrefix
    match appended.1 with
    | .duplicate => joinIncident registry request opened incidentId
    | .applied => do
      let incident := { incident with incidentNumber := appended.2 }
      ask (.putIncident registry incident)
      project registry incident (.aware opened)
      pure { incident, created := true }

/-- The check of `opened_at`. -/
def awareOpenedAt : Option Stamp → Except String (Option Moment)
  | none => .ok none
  | some (.aware moment) => .ok (some moment)
  | some .naive => .error "incident opened_at MUST be timezone-aware"

def openWithStatus (request : OpenRequest) : Registering IncidentOpenResult := do
  if strip request.actorOid = "" then
    throw (.value "incident open actor_oid MUST be non-empty")
  else do
    let openedAt ← checked (awareOpenedAt request.openedAt)
    let keys ← checked (canonicalIncidentCorrelationKeys request.correlationKeys)
    let incidentId ← checked (incidentIdFor keys)
    let incidents : Incidents ← ask (.getIndex registry)
    match incidents.get incidentId with
    | some existing => growIncident registry request existing
    | none =>
      match activeIncidentForEpisode incidents keys with
      | .error error => throw error
      | .ok (some existing) => growIncident registry request existing
      | .ok none => createIncident registry request keys openedAt incidentId

/-- The arguments of `transition_with_status`. -/
structure TransitionRequest where
  incidentId : Uuid
  toState : IncidentState
  actorOid : String
  reason : Option String := none
  severity : Option IncidentSeverity := none
  at_ : Option Stamp := none

/-- A transition to the state the index has already. -/
def confirmState (request : TransitionRequest) (incident : Incident) :
    Registering IncidentMutationResult := do
  if ∃ severity ∈ request.severity, severity ≠ incident.severity then
    throw (.value "severity cannot change on a same-state transition")
  else do
    let canonical ← reloadCanonical registry request.incidentId
    if canonical.state ≠ request.toState then
      throw (.conflict (.staleSameState request.incidentId canonical.state))
    else
      pure { incident := canonical, changed := false }

def transitionWithStatus (request : TransitionRequest) : Registering IncidentMutationResult := do
  let incidents : Incidents ← ask (.getIndex registry)
  match incidents.get request.incidentId with
  | none => throw (.unknownIncident request.incidentId)
  | some incident =>
    if incident.state = request.toState then
      confirmState registry request incident
    else do
      checked (IncidentStateMachine.validate incident.state request.toState)
      let targetSeverity := request.severity.getD incident.severity
      if targetSeverity ≠ incident.severity ∧
          ¬ (incident.state = .resolved ∧ request.toState = .triaging) then
        throw (.value "severity can change only on resolved -> triaging reopen")
      else do
        let moment ← orNow request.at_
        let transition ← checked (IncidentTransition.create request.incidentId incident.state
          request.toState request.actorOid moment request.reason)
        let entry := transitionAuditEntry transition incident targetSeverity
        match ← persist registry entry request.incidentId with
        | .duplicate => do
          let canonical ← reloadCanonical registry request.incidentId
          if canonical.state ≠ request.toState ∨ canonical.severity ≠ targetSeverity then
            throw (.conflict (.differsAfterDuplicate request.incidentId))
          else
            pure { incident := canonical, changed := false }
        | .applied => do
          let updated := applyIncidentTransition incident transition targetSeverity
          ask (.putIncident registry updated)
          project registry updated moment
          pure { incident := updated, changed := true }

/-- The arguments of `assign_with_status`. -/
structure AssignRequest where
  incidentId : Uuid
  assigneeOid : Option String
  actorOid : String
  at_ : Option Stamp := none

/-- `(text or "").strip() or None`. -/
def strippedOrNone (text : Option String) : Option String :=
  (text.map strip).filter (· ≠ "")

def assignWithStatus (request : AssignRequest) : Registering IncidentMutationResult := do
  let target := strippedOrNone request.assigneeOid
  let incidents : Incidents ← ask (.getIndex registry)
  match incidents.get request.incidentId with
  | none => throw (.unknownIncident request.incidentId)
  | some incident =>
    if incident.assigneeOid = target then do
      let canonical ← reloadCanonical registry request.incidentId
      if canonical.assigneeOid ≠ target then
        throw (.conflict (.staleSameAssignee request.incidentId))
      else
        pure { incident := canonical, changed := false }
    else do
      let moment ← orNow request.at_
      let entry ← checked (assignmentAuditEntry incident target request.actorOid moment)
      match ← persist registry entry request.incidentId with
      | .duplicate => do
        let canonical ← reloadCanonical registry request.incidentId
        pure { incident := canonical, changed := false }
      | .applied => do
        let updated := { incident with assigneeOid := target }
        ask (.putIncident registry updated)
        pure { incident := updated, changed := true }

/-- The arguments of `link_ticket`. -/
structure TicketRequest where
  incidentId : Uuid
  provider : String
  ticketId : String
  actorOid : String
  ticketUrl : Option String := none
  at_ : Option Stamp := none

/-- `link_ticket`. The provider is lowered in its ASCII letters. -/
def linkTicket (request : TicketRequest) : Registering IncidentTicketLink := do
  let provider := (strip request.provider).toLower
  let ticketId := strip request.ticketId
  let ticketUrl := strippedOrNone request.ticketUrl
  checked (validate [ (provider ≠ "", "ticket provider MUST be non-empty"),
    (ticketId ≠ "", "ticket_id MUST be non-empty"),
    (ticketUrl.all fun url => "https://".toList.isPrefixOf url.toList,
      "ticket_url MUST use https://")])
  let moment ← orNow request.at_
  let incidents : Incidents ← ask (.getIndex registry)
  match incidents.get request.incidentId with
  | none => throw (.unknownIncident request.incidentId)
  | some _ => do
    let link ← checked (IncidentTicketLink.create request.incidentId provider ticketId
      ticketUrl moment request.actorOid)
    let _ ← persist registry (ticketAuditEntry link) request.incidentId
    pure link

/-- `rehydrate`, over the rows of the store. -/
def rehydrate : Registering ℕ := do
  let entries : List Row ← ask .readTransitions
  match rehydrateIncidents entries with
  | .error why => throw (.replay why)
  | .ok restored => do
    ask (.setIndex registry restored)
    pure restored.values.length

end

/-- An operation of a registry. -/
inductive RegistryRequest where
  | opening (request : OpenRequest)
  | transition (request : TransitionRequest)
  | assign (request : AssignRequest)
  | linkTicket (request : TicketRequest)
  | rehydrate

structure RegistryCall where
  registry : ℕ
  request : RegistryRequest

/-- What an operation returns. -/
inductive RegistryResult where
  | opening (result : IncidentOpenResult)
  | mutation (result : IncidentMutationResult)
  | ticket (link : IncidentTicketLink)
  | count (incidents : ℕ)
  deriving DecidableEq

def RegistryCall.program (call : RegistryCall) : Registering RegistryResult :=
  match call.request with
  | .opening request => .opening <$> openWithStatus call.registry request
  | .transition request => .mutation <$> transitionWithStatus call.registry request
  | .assign request => .mutation <$> assignWithStatus call.registry request
  | .linkTicket request => .ticket <$> linkTicket call.registry request
  | .rehydrate => .count <$> Fdai.Core.rehydrate call.registry

structure RegistryWorld where
  store : IncidentStore := {}
  index : ℕ → Incidents := fun _ => Keyed.empty

/-- What the outside answers. -/
structure RegistryOracle where
  instant : ℤ := 0
  numberPrefix : Option String := some "INC-202601"
  projects : Bool := true

/-- The effect of one call. -/
def RegistryWorld.perform (oracle : RegistryOracle) (w : RegistryWorld) :
    (op : RegistryOp) → op.Ans × RegistryWorld
  | .getIndex registry => (w.index registry, w)
  | .putIncident registry incident =>
    ((), { w with index :=
            Function.update w.index registry ((w.index registry).put incident) })
  | .setIndex registry incidents =>
    ((), { w with index := Function.update w.index registry incidents })
  | .append entry =>
    let (answer, store) := w.store.append entry
    (answer, { w with store })
  | .appendOpen entry numberPrefix =>
    let (answer, store) := w.store.appendOpen entry numberPrefix
    (answer, { w with store })
  | .readTransitions => (w.store.rows, w)
  | .now => (⟨oracle.instant, 0⟩, w)
  | .numberClock => (oracle.numberPrefix, w)
  | .project _ _ _ => (oracle.projects, w)

/-- Registries over one store. -/
def registryMachine : Machine RegistryOp RegistryOp.Ans RegistryWorld IncidentError
    RegistryResult RegistryCall RegistryOracle where
  perform := RegistryWorld.perform
  program _ := RegistryCall.program

end Fdai.Core
