import Fdai.Incident.History
import Fdai.Incident.Registry

/-!
# Accepted histories rehydrate

The store decides about a row with checks of its own, and the replay with others. Whatever
the registries do and however old their indexes are, the rows that the store accepts replay,
with one exception: the store does not look at the severity a transition starts from.

* `Writing` — the rows that a registry appends; every operation keeps to it.
* `rehydrates_iff` — the rows of a run rehydrate exactly if its calls meet that condition.
-/

namespace Fdai.Core

open Fdai.Sequences Fdai.Concurrency Program

/-- A call of a registry that appends a row of its own, or none. -/
def Writing : RegistryOp → Prop
  | .append entry => entry.Written
  | .appendOpen entry _ => entry.Written
  | _ => True

/-- A program that appends rows of a registry only. -/
abbrev Writes {α : Type} (p : Registering α) : Prop := Only Writing p

section

variable {registry : ℕ} {α β : Type}

theorem writes_ask {op : RegistryOp} {f : op.Ans → Registering β} (writing : Writing op)
    (next : ∀ a, Writes (f a)) : Writes (Registering.ask op >>= f) := ⟨writing, next⟩

theorem writes_checked {f : α → Registering β} {checked : Except String α}
    (next : ∀ value, checked = .ok value → Writes (f value)) :
    Writes (Registering.checked checked >>= f) := by
  cases checked with
  | ok value => exact next value rfl
  | error message => trivial

theorem writes_orNow {at_ : Option Stamp} : Writes (Registering.orNow at_) := by
  cases at_ with
  | some stamp => trivial
  | none => exact ⟨trivial, fun _ => trivial⟩

theorem writes_momentOrNow {at_ : Option Moment} : Writes (Registering.momentOrNow at_) := by
  cases at_ with
  | some moment => trivial
  | none => exact ⟨trivial, fun _ => trivial⟩

variable {incident : Incident}

theorem writes_project {updatedAt : Stamp} :
    Writes (Registering.project registry incident updatedAt) := by
  refine ⟨trivial, fun returned : Bool => ?_⟩
  cases returned <;> trivial

variable {incidentId : Uuid}

theorem writes_reloadCanonical : Writes (reloadCanonical registry incidentId) := by
  refine writes_ask trivial fun entries : List Row => ?_
  rcases rehydrateIncidents entries with why | restored
  · trivial
  refine ⟨trivial, fun _ => ?_⟩
  dsimp only
  cases restored.get incidentId <;> trivial

variable {entry : Row}

theorem writes_persist (written : entry.Written) : Writes (persist registry entry incidentId) := by
  refine writes_ask written fun appended : Except IncidentError IncidentAppendStatus => ?_
  cases appended with
  | ok status => trivial
  | error error => cases error with
    | conflict why => exact only_bind writes_reloadCanonical fun _ => trivial
    | value | unknownIncident | replay | projection => trivial

theorem writes_persistOpen {numberPrefix : String}
    (written : entry.Written) : Writes (persistOpen registry entry incidentId numberPrefix) := by
  refine writes_ask written fun (appended : Except IncidentError _) => ?_
  cases appended with
  | ok result => trivial
  | error error => cases error with
    | conflict why => exact only_bind writes_reloadCanonical fun _ => trivial
    | value | unknownIncident | replay | projection => trivial

variable {actorOid : String} {at_ : Stamp}

theorem of_requireActorAndTime {build : String × Moment → Row}
    (built : (do pure (build (← requireActorAndTime actorOid at_))) = .ok entry) :
    ∃ actor moment, entry = build (actor, moment) := by
  obtain ⟨⟨actor, moment⟩, -, rest⟩ := bind_eq_ok.1 built
  exact ⟨actor, moment, (Except.ok.inj rest).symm⟩

theorem written_membersAuditEntry {added : List Uuid} (nonempty : added ≠ [])
    (built : membersAuditEntry incident added actorOid at_ = .ok entry) : entry.Written := by
  obtain ⟨actor, moment, rfl⟩ := of_requireActorAndTime built
  exact nonempty

theorem written_severityAuditEntry {target : IncidentSeverity}
        (built : severityAuditEntry incident target actorOid at_ = .ok entry) : entry.Written := by
  obtain ⟨actor, moment, rfl⟩ := of_requireActorAndTime built
  trivial

theorem written_assignmentAuditEntry {target : Option String}
        (built : assignmentAuditEntry incident target actorOid at_ = .ok entry) : entry.Written := by
  obtain ⟨actor, moment, rfl⟩ := of_requireActorAndTime built
  trivial

/-! ### Operations -/

theorem writes_tryPersist (written : entry.Written) :
    Writes (tryPersist registry entry incidentId) := by
  refine only_tryCatch (only_map (writes_persist written)) fun error => ?_
  cases error <;> trivial

theorem writes_escalateSeverityIfNeeded {target : IncidentSeverity}
    (attempts : ℕ) (canonical : Incident) :
    Writes (escalateSeverityIfNeeded registry target actorOid at_ attempts canonical) := by
  induction attempts generalizing canonical with
  | zero => trivial
  | succ attempts ih =>
    unfold escalateSeverityIfNeeded
    split
    · trivial
    refine writes_checked fun entry built => ?_
    refine only_bind (writes_tryPersist (written_severityAuditEntry built)) fun status => ?_
    match status with
    | none => exact only_bind writes_reloadCanonical fun canonical => ih canonical
    | some .duplicate => exact only_bind writes_reloadCanonical fun _ => trivial
    | some .applied =>
      refine writes_ask trivial fun _ => ?_
      exact only_bind writes_project fun _ => trivial

variable {request : OpenRequest}

theorem writes_growIncident {existing : Incident} :
    Writes (growIncident registry request existing) := by
  refine only_bind writes_orNow fun _ => ?_
  refine only_bind (writes_escalateSeverityIfNeeded 2 existing) fun ⟨existing, _, _⟩ => ?_
  dsimp only
  split
  · trivial
  rename_i grows
  refine only_bind writes_orNow fun _ => writes_checked fun entry built => ?_
  have written : entry.Written := by
    refine written_membersAuditEntry (fun nothing => grows ?_) built
    rw [nothing]
    exact List.append_nil _
  refine only_bind (writes_persist written) fun status => ?_
  cases status with
  | duplicate => exact only_bind writes_reloadCanonical fun _ => trivial
  | applied => exact ⟨trivial, fun _ => trivial⟩

theorem writes_joinIncident {openedAt : Moment} :
    Writes (joinIncident registry request openedAt incidentId) := by
  refine only_bind writes_reloadCanonical fun canonical => ?_
  dsimp only
  split
  · trivial
  rename_i grows
  refine writes_checked fun entry built => ?_
  refine only_bind (writes_persist (written_membersAuditEntry grows built)) fun _ => ?_
  exact only_bind writes_reloadCanonical fun _ => trivial

variable {keys : List String}

/-- What the validating constructor makes of its arguments. -/
theorem create_eq_ok {assigneeOid : Option String} {state : IncidentState}
    {severity : IncidentSeverity} {openedAt : Moment} {members : List Uuid}
    (created : Incident.create incidentId none state severity openedAt keys members assigneeOid =
      .ok incident) :
    ∃ (keys_nonempty : keys.map strip ≠ []) (members_nonempty : members ≠ []), incident =
      { incidentId, state, severity, openedAt, correlationKeys := keys.map strip
        memberEventIds := members, assigneeOid := assigneeOid.map strip, keys_nonempty
        members_nonempty } := by
  unfold Incident.create at created
  dsimp only at created
  split at created
  · split at created
    · split at created
      · rename_i keys_nonempty members_nonempty
        exact ⟨keys_nonempty, members_nonempty, (Except.ok.inj created).symm⟩
      · cases created
    · cases created
  · cases created

theorem map_strip_map_strip (text : Option String) :
    (text.map strip).map strip = text.map strip := by
  rw [Option.map_map]
  exact congrArg (Option.map · text) (funext strip_strip)

theorem written_openAuditEntry
    (canonical : CanonicalKeys keys) (sameKeys : incident.correlationKeys = keys)
    (id : incidentIdFor keys = .ok incident.incidentId)
    (assignee : incident.assigneeOid.map strip = incident.assigneeOid)
    (built : openAuditEntry incident actorOid = .ok entry) :
    ∃ opened : OpenEntry, entry = .opened opened ∧ opened.Written ∧
      opened.incidentId = incident.incidentId ∧ opened.state = .opened ∧
      opened.severity = incident.severity ∧ opened.openedAt = incident.openedAt ∧
      opened.correlationKeys = keys ∧ opened.memberEventIds = incident.memberEventIds ∧
      opened.assigneeOid = incident.assigneeOid := by
  obtain ⟨actor, moment, rfl⟩ := of_requireActorAndTime built
  refine ⟨_, rfl, ⟨fun empty => ?_, ?_, incident.members_nonempty, assignee⟩, rfl, rfl, rfl, rfl,
    sameKeys, rfl, rfl⟩
  · rw [sameKeys] at empty
    exact canonical.texts "" empty rfl
  · rw [sameKeys, id]

theorem writes_createIncident {openedAt : Option Moment} (canonical : CanonicalKeys keys)
    (id : incidentIdFor keys = .ok incidentId) :
    Writes (createIncident registry request keys openedAt incidentId) := by
  refine only_bind writes_momentOrNow fun opened => ?_
  have clock : Writing .numberClock := trivial
  refine writes_ask clock fun numberedAt : Option String => ?_
  rcases numberedAt with _ | numberPrefix
  · trivial
  refine writes_checked fun incident created => writes_checked fun entry built => ?_
  rw [canonical.sortedSet_filter] at created
  obtain ⟨keys_nonempty, members_nonempty, rfl⟩ := create_eq_ok created
  obtain ⟨opened, rfl, written, -⟩ := written_openAuditEntry canonical canonical.map_strip id
    (map_strip_map_strip _) built
  have isWritten : Row.Written (.opened opened) := written
  refine only_bind (writes_persistOpen isWritten) fun ⟨status, number⟩ => ?_
  cases status with
  | duplicate => exact writes_joinIncident
  | applied =>
    refine writes_ask trivial fun _ => ?_
    exact only_bind writes_project fun _ => trivial

theorem writes_openWithStatus : Writes (openWithStatus registry request) := by
  unfold openWithStatus
  split
  · trivial
  refine writes_checked fun openedAt _ => writes_checked fun keys canonical =>
    writes_checked fun incidentId id => writes_ask trivial fun incidents : Incidents => ?_
  cases incidents.get incidentId with
  | some existing => exact writes_growIncident
  | none =>
    dsimp only
    rcases activeIncidentForEpisode incidents keys with _ | _ | existing
    · trivial
    · exact writes_createIncident (canonicalKeys_of_canonical canonical) id
    · exact writes_growIncident

theorem writes_transitionWithStatus {request : TransitionRequest} :
    Writes (transitionWithStatus registry request) := by
  refine writes_ask trivial fun incidents : Incidents => ?_
  dsimp only
  rcases incidents.get request.incidentId with _ | incident
  · trivial
  dsimp only
  split
  · unfold confirmState
    split
    · trivial
    refine only_bind writes_reloadCanonical fun _ => ?_
    split <;> trivial
  refine writes_checked fun _ legal => ?_
  split
  · trivial
  rename_i reopens
  refine only_bind writes_orNow fun moment => writes_checked fun transition created => ?_
  have written : Row.Written (transitionAuditEntry transition incident
      (request.severity.getD incident.severity)) := by
    unfold IncidentTransition.create at created
    split at created
    · split at created
      · rename_i actor
        obtain rfl := Except.ok.inj created
        refine ⟨IncidentStateMachine.validate_eq_ok.1 legal, actor, ?_⟩
        by_cases same : request.severity.getD incident.severity = incident.severity
        · exact .inl same
        · exact .inr (by simpa [same] using reopens)
      · cases created
    · cases created
  refine only_bind (writes_persist written) fun status => ?_
  cases status with
  | duplicate =>
    refine only_bind writes_reloadCanonical fun _ => ?_
    split <;> trivial
  | applied =>
    refine writes_ask trivial fun _ => ?_
    exact only_bind writes_project fun _ => trivial

theorem writes_assignWithStatus {request : AssignRequest} :
    Writes (assignWithStatus registry request) := by
  refine writes_ask trivial fun incidents : Incidents => ?_
  dsimp only
  rcases incidents.get request.incidentId with _ | incident
  · trivial
  dsimp only
  split
  · refine only_bind writes_reloadCanonical fun _ => ?_
    split <;> trivial
  refine only_bind writes_orNow fun moment => writes_checked fun entry built => ?_
  refine only_bind (writes_persist (written_assignmentAuditEntry built)) fun status => ?_
  cases status with
  | duplicate => exact only_bind writes_reloadCanonical fun _ => trivial
  | applied => exact ⟨trivial, fun _ => trivial⟩

theorem writes_linkTicket {request : TicketRequest} : Writes (linkTicket registry request) := by
  refine writes_checked fun _ _ => only_bind writes_orNow fun moment =>
    writes_ask trivial fun incidents : Incidents => ?_
  rcases incidents.get request.incidentId with _ | incident
  · trivial
  refine writes_checked fun link _ => ?_
  exact only_bind (writes_persist trivial) fun _ => trivial

theorem writes_rehydrate : Writes (rehydrate registry) := by
  refine writes_ask trivial fun entries : List Row => ?_
  cases rehydrateIncidents entries with
  | error why => trivial
  | ok restored => exact ⟨trivial, fun _ => trivial⟩

/-- **Every operation** appends rows of a registry only. -/
theorem writes_program (call : RegistryCall) : Writes call.program := by
  obtain ⟨registry, request⟩ := call
  cases request with
  | opening request => exact only_map writes_openWithStatus
  | transition request => exact only_map writes_transitionWithStatus
  | assign request => exact only_map writes_assignWithStatus
  | linkTicket request => exact only_map writes_linkTicket
  | rehydrate => exact only_map writes_rehydrate

end

def severityIn (rows : List Row) (incidentId : Uuid) : Option IncidentSeverity :=
  (openedRow rows incidentId).map (currentSeverity rows)

/-- A transition that the store accepts starts from the current severity. -/
def CurrentSeverity (w : RegistryWorld) : RegistryOp → Prop
  | .append (.transition entry) =>
    classifyIncidentAppend w.store.rows (.transition entry) = .ok .applied →
      severityIn w.store.rows entry.incidentId = some entry.fromSeverity
  | _ => True

instance (w : RegistryWorld) : (op : RegistryOp) → Decidable (CurrentSeverity w op)
  | .append (.transition _) => inferInstanceAs (Decidable (_ → _))
  | .append (.opened _) | .append (.members _) | .append (.severity _) | .append (.assigned _)
  | .append (.ticket _) | .appendOpen _ _ | .getIndex _ | .putIncident _ _ | .setIndex _ _
  | .readTransitions | .now | .numberClock | .project _ _ _ => isTrue trivial

section

variable {rows : List Row} {restored : Incidents} {row : Row}

/-- **What an accepted row is**: an opening of an incident that has none, or a row of an
incident that is open. -/
theorem classifyIncidentAppend_applied (accepted : classifyIncidentAppend rows row = .ok .applied) :
    (∃ entry, row = .opened entry ∧ openedRow rows entry.incidentId = none) ∨
      ∃ opened, openedRow rows row.incidentId = some opened ∧
        classifyOpened rows opened row = .ok .applied := by
  unfold classifyIncidentAppend at accepted
  split at accepted
  · split at accepted
    · cases accepted
    · cases accepted
  cases found : openedRow rows row.incidentId with
  | some opened =>
    rw [found] at accepted
    exact .inr ⟨opened, rfl, accepted⟩
  | none =>
    rw [found] at accepted
    cases row with
    | opened entry => exact .inl ⟨entry, rfl, found⟩
    | members | severity | assigned | ticket | transition => cases accepted

/-- **An accepted row replays**, if a transition starts from the current severity. -/
theorem accepted_replays (agrees : Agrees rows restored) (written : row.Written)
    (accepted : classifyIncidentAppend rows row = .ok .applied)
    (another : ∀ entry, row ≠ .opened entry)
    (current : ∀ entry, row = .transition entry →
      severityIn rows entry.incidentId = some entry.fromSeverity) :
    Replays rows restored row := by
  rcases classifyIncidentAppend_applied accepted with ⟨entry, same, -⟩ | ⟨opened, found, accepted⟩
  · exact absurd same (another entry)
  cases row with
  | opened entry => exact absurd rfl (another entry)
  | members entry => exact members_replays agrees found written
  | severity entry => exact severity_replays agrees found accepted
  | assigned entry => exact assigned_replays agrees found accepted
  | ticket entry => exact ticket_replays agrees found
  | transition entry =>
    have fromCurrent := current entry rfl
    rw [severityIn, show openedRow rows entry.incidentId = some opened from found] at fromCurrent
    exact transition_replays agrees found accepted written (Option.some.inj fromCurrent)

theorem fromSeverity_of_replayTransition {entry : TransitionEntry} {current : Incident}
    {restored' : Incidents} (got : restored.get entry.incidentId = some current)
    (replayed : replayTransition restored entry = .ok restored') :
    current.severity = entry.fromSeverity := by
  unfold replayTransition at replayed
  obtain ⟨current', required, replayed⟩ := bind_eq_ok.1 replayed
  obtain rfl := Except.ok.inj ((requireExistingIncident_eq_ok got).symm.trans required)
  split at replayed
  · cases replayed
  obtain ⟨actorOid, -, replayed⟩ := bind_eq_ok.1 replayed
  obtain ⟨transition, -, replayed⟩ := bind_eq_ok.1 replayed
  obtain ⟨-, -, replayed⟩ := bind_eq_ok.1 replayed
  split at replayed
  · cases replayed
  rename_i same
  exact not_not.1 same

theorem stale_fails {entry : TransitionEntry} (agrees : Agrees rows restored)
    (accepted : classifyIncidentAppend rows (.transition entry) = .ok .applied)
    (stale : severityIn rows entry.incidentId ≠ some entry.fromSeverity) :
    ∃ error, replayRow restored (.transition entry) = .error error := by
  rcases replayed : replayRow restored (.transition entry) with error | restored'
  · exact ⟨error, rfl⟩
  rcases classifyIncidentAppend_applied accepted with ⟨_, same, -⟩ | ⟨opened, found, -⟩
  · cases same
  obtain ⟨current, got, -, -, holds⟩ := agrees.current found
  have same := fromSeverity_of_replayTransition got replayed
  rw [severityIn, show openedRow rows entry.incidentId = some opened from found,
    Option.map_some, ← holds.severity, same] at stale
  exact absurd rfl stale

end

/-! ## Every run -/

/-- The rows rehydrate, to an index that says what they say. -/
def Rehydrated (w : RegistryWorld) : Prop :=
  ∃ restored, rehydrateIncidents w.store.rows = .ok restored ∧ Agrees w.store.rows restored

theorem Rehydrated.empty : Rehydrated {} := ⟨Keyed.empty, rfl, agrees_empty⟩

private theorem Rehydrated.append {w : RegistryWorld} {row : Row} {store : IncidentStore}
    (holds : Rehydrated w) (grown : store.rows = w.store.rows ++ [row])
    (replays : ∀ restored, Agrees w.store.rows restored → Replays w.store.rows restored row) :
    Rehydrated { w with store } := by
  obtain ⟨restored, rehydrated, agrees⟩ := holds
  obtain ⟨restored', replayed, agrees'⟩ := replays restored agrees
  refine ⟨restored', ?_, ?_⟩
  · change rehydrateIncidents store.rows = _
    rw [grown, rehydrateIncidents_append, rehydrated]
    exact replayed
  · change Agrees store.rows restored'
    rwa [grown]

/-- **What an append can do to the rows.** -/
theorem append_cases (store : IncidentStore) (entry : Row) :
    ((store.append entry).2 = store ∧ (store.append entry).1 ≠ .ok .applied) ∨
      (classifyIncidentAppend store.rows entry = .ok .applied ∧ (∀ e, entry ≠ .opened e) ∧
        (store.append entry).1 = .ok .applied ∧
        (store.append entry).2 = { store with rows := store.rows ++ [entry] }) := by
  unfold IncidentStore.append
  cases entry with
  | opened entry => exact .inl ⟨rfl, by simp⟩
  | members | severity | assigned | ticket | transition =>
    dsimp only
    split
    · exact .inl ⟨rfl, by simp⟩
    · exact .inl ⟨rfl, by simp⟩
    · rename_i accepted
      exact .inr ⟨accepted, by simp, rfl, rfl⟩

/-- **What an opening can do to the rows.** -/
theorem appendOpen_cases (store : IncidentStore) (entry : Row) (numberPrefix : String) :
    ((store.appendOpen entry numberPrefix).2 = store ∧
        ∀ number, (store.appendOpen entry numberPrefix).1 ≠ .ok (.applied, number)) ∨
      ∃ opened number, entry = .opened opened ∧
        classifyIncidentAppend store.rows entry = .ok .applied ∧ IncidentNumber number ∧
        (store.appendOpen entry numberPrefix).1 = .ok (.applied, some number) ∧
        (store.appendOpen entry numberPrefix).2.rows =
          store.rows ++ [.opened { opened with incidentNumber := some number }] := by
  unfold IncidentStore.appendOpen
  cases entry with
  | members | severity | assigned | ticket | transition => exact .inl ⟨rfl, by simp⟩
  | opened opened =>
    dsimp only
    split
    · exact .inl ⟨rfl, by simp⟩
    · exact .inl ⟨rfl, by simp⟩
    · rename_i accepted
      cases given : incidentNumberFor numberPrefix (store.sequences numberPrefix) with
      | error message => exact .inl ⟨rfl, by simp⟩
      | ok number =>
        exact .inr ⟨opened, number, rfl, accepted, incidentNumber_of_incidentNumberFor given,
          rfl, rfl⟩

/-- **One call** that keeps to the condition leaves rows that rehydrate. -/
theorem Rehydrated.kept {w : RegistryWorld} {op : RegistryOp} (oracle : RegistryOracle)
    (writing : Writing op) (current : CurrentSeverity w op) (holds : Rehydrated w) :
    Rehydrated (w.perform oracle op).2 := by
  cases op with
  | append entry =>
    change Rehydrated { w with store := (w.store.append entry).2 }
    rcases append_cases w.store entry with ⟨same, -⟩ | ⟨accepted, another, -, grown⟩
    · rw [same]
      exact holds
    have rows := congrArg IncidentStore.rows grown
    refine holds.append rows fun restored agrees => ?_
    refine accepted_replays agrees writing accepted another fun transition same => ?_
    subst same
    exact current accepted
  | appendOpen entry numberPrefix =>
    change Rehydrated { w with store := (w.store.appendOpen entry numberPrefix).2 }
    rcases appendOpen_cases w.store entry numberPrefix with
      ⟨same, -⟩ | ⟨opened, number, rfl, accepted, valid, -, grown⟩
    · rw [same]
      exact holds
    refine holds.append grown fun restored agrees => ?_
    have fresh : openedRow w.store.rows opened.incidentId = none := by
      rcases classifyIncidentAppend_applied accepted with ⟨entry, same, fresh⟩ | ⟨_, _, again⟩
      · cases same
        exact fresh
      · simp only [classifyOpened] at again
        split at again <;> cases again
    obtain ⟨texts, id, members, assignee⟩ := (writing : opened.Written)
    exact opening_replays agrees fresh ⟨texts, id, members, assignee⟩ rfl valid
  | getIndex | putIncident | setIndex | readTransitions | now | numberClock | project =>
    exact holds

/-- Registries over one store, as replicas that keep to `Writing`. -/
def registryDiscipline : Discipline RegistryOp RegistryOp.Ans RegistryWorld where
  permit _ _ := Writing
  answers := registryMachine.Answers CurrentSeverity
  inv := Rehydrated
  kept := by
    rintro _ w op a w' writing ⟨current, oracle, performed⟩ holds
    obtain ⟨rfl, rfl⟩ := Prod.mk.inj performed
    exact holds.kept oracle writing current

/-- The rows of a store only grow. -/
theorem rows_perform (oracle : RegistryOracle) (w : RegistryWorld) (op : RegistryOp) :
    w.store.rows <+: (w.perform oracle op).2.store.rows := by
  cases op with
  | append entry =>
    change w.store.rows <+: (w.store.append entry).2.rows
    rcases append_cases w.store entry with ⟨same, -⟩ | ⟨-, -, -, grown⟩
    · exact ⟨[], by rw [same, List.append_nil]⟩
    · rw [grown]
      exact List.prefix_append _ _
  | appendOpen entry numberPrefix =>
    change w.store.rows <+: (w.store.appendOpen entry numberPrefix).2.rows
    rcases appendOpen_cases w.store entry numberPrefix with ⟨same, -⟩ | ⟨_, _, -, -, -, -, grown⟩
    · exact ⟨[], by rw [same, List.append_nil]⟩
    · rw [grown]
      exact List.prefix_append _ _
  | getIndex | putIncident | setIndex | readTransitions | now | numberClock | project =>
    exact List.prefix_rfl

/-- A pool of registry operations. -/
abbrev Registries := System RegistryOp RegistryOp.Ans RegistryWorld IncidentError RegistryResult

theorem rows_move (sys : Registries) (m : Move RegistryCall RegistryOracle) :
    sys.world.store.rows <+: (registryMachine.move sys m).world.store.rows := by
  cases m with
  | start | crash => exact List.prefix_rfl
  | advance moved oracle =>
    simp only [Machine.move]
    split
    · rename_i p _
      cases p with
      | done r => exact List.prefix_rfl
      | call op next => exact rows_perform oracle sys.world op
    · exact List.prefix_rfl

theorem rows_run (sys : Registries) (moves : List (Move RegistryCall RegistryOracle)) :
    sys.world.store.rows <+: (registryMachine.run sys moves).world.store.rows := by
  induction moves generalizing sys with
  | nil => exact List.prefix_rfl
  | cons m ms ih => exact (rows_move sys m).trans (ih _)

/-- **A move that breaks the condition** leaves rows that do not rehydrate. -/
theorem fails_of_not_admits {sys : Registries} {m : Move RegistryCall RegistryOracle}
    (holds : Rehydrated sys.world) (breaks : ¬ Machine.Admits CurrentSeverity sys m) :
    ∃ error, rehydrateIncidents (registryMachine.move sys m).world.store.rows = .error error := by
  cases m with
  | start | crash => exact absurd trivial breaks
  | advance moved oracle =>
    simp only [Machine.Admits, not_forall] at breaks
    obtain ⟨op, next, inPool, breaks⟩ := breaks
    cases op with
    | append entry => cases entry with
      | transition entry =>
        simp only [CurrentSeverity, not_forall] at breaks
        obtain ⟨accepted, stale⟩ := breaks
        obtain ⟨restored, rehydrated, agrees⟩ := holds
        obtain ⟨error, failed⟩ := stale_fails agrees accepted stale
        refine ⟨error, ?_⟩
        have grown : (registryMachine.move sys (.advance moved oracle)).world.store.rows =
            sys.world.store.rows ++ [.transition entry] := by
          simp only [Machine.move, inPool]
          change (sys.world.store.append (.transition entry)).2.rows = _
          simp only [IncidentStore.append, accepted]
        rw [grown, rehydrateIncidents_append, rehydrated]
        exact failed
      | opened | members | severity | assigned | ticket => exact absurd trivial breaks
    | appendOpen | getIndex | putIncident | setIndex | readTransitions | now | numberClock
    | project => exact absurd trivial breaks

/-- What a pool keeps to. -/
abbrev Healthy (sys : Registries) : Prop :=
  Machine.Healthy registryDiscipline (fun _ _ => True) sys

/-- A run from a pool that keeps to the discipline. -/
theorem run_rehydrates_iff {sys : Registries} (healthy : Healthy sys)
    (moves : List (Move RegistryCall RegistryOracle)) :
    (∃ restored, rehydrateIncidents (registryMachine.run sys moves).world.store.rows =
        .ok restored) ↔
      registryMachine.Observes CurrentSeverity sys moves := by
  induction moves generalizing sys with
  | nil =>
    obtain ⟨restored, rehydrated, -⟩ := healthy.inv
    exact ⟨fun _ => trivial, fun _ => ⟨restored, rehydrated⟩⟩
  | cons m ms ih =>
    by_cases admits : Machine.Admits CurrentSeverity sys m
    · have calls (replica : ℕ) (call : RegistryCall) (w : RegistryWorld) (holds : Rehydrated w) :
          call.program.Sat (registryDiscipline.regime replica) (fun _ _ => True) w :=
        (Only.sat (F := fun _ => True) (fun op writing _ _ => writing) (fun _ _ => trivial)
          (fun _ _ _ => trivial) (writes_program call) trivial)
      have healthy' : Healthy (registryMachine.move sys m) :=
        healthy.move (M := registryMachine) id calls admits
      rw [Machine.run_cons, ih healthy']
      exact ⟨fun observes => ⟨admits, observes⟩, fun observes => observes.2⟩
    · -- the rows after the move fail to replay, and they stay a prefix of the rows
      obtain ⟨error, failed⟩ := fails_of_not_admits healthy.inv admits
      obtain ⟨later, grown⟩ := rows_run (registryMachine.move sys m) ms
      rw [Machine.run_cons, ← grown, rehydrateIncidents_error failed]
      constructor
      · rintro ⟨_, replayed⟩
        cases replayed
      · intro observes
        exact absurd observes.1 admits

/-- **Accepted histories rehydrate** exactly if no transition was accepted from a severity
that was not the current one. -/
theorem rehydrates_iff (moves : List (Move RegistryCall RegistryOracle)) :
    (∃ restored, rehydrateIncidents
        (registryMachine.run (Machine.idle {}) moves).world.store.rows = .ok restored) ↔
      registryMachine.Observes CurrentSeverity (Machine.idle {}) moves :=
  run_rehydrates_iff (Machine.Healthy.idle Rehydrated.empty) moves

private def openVm (severity : IncidentSeverity) : RegistryRequest :=
  .opening
    { correlationKeys := ["resource:vm-1"], severity, memberEventIds := [.given 1]
      actorOid := "heimdall" }

/-- Two registries have the same incident; one escalates it and the other triages it. -/
private def staleTriage : List (Move RegistryCall RegistryOracle) :=
  .start ⟨0, openVm .sev3⟩ :: List.replicate 8 (.advance 0 {}) ++
    .start ⟨1, .rehydrate⟩ :: List.replicate 4 (.advance 1 {}) ++
    .start ⟨0, openVm .sev2⟩ :: List.replicate 12 (.advance 2 {}) ++
    .start ⟨1, .transition { incidentId := .named "fdai.incident://resource:vm-1",
                             toState := .triaging, actorOid := "operator" }⟩ ::
      List.replicate 8 (.advance 3 {})

/-- The store accepts the transition of the registry whose index is older than the
escalation, and the rows do not rehydrate any more. -/
theorem stale_triage_fails : ¬ ∀ moves, ∃ restored, rehydrateIncidents
      (registryMachine.run (Machine.idle {}) moves).world.store.rows = .ok restored := by
  intro always
  obtain ⟨restored, replayed⟩ := always staleTriage
  have failed : rehydrateIncidents
      (registryMachine.run (Machine.idle {}) staleTriage).world.store.rows =
        .error (.fromSeverityMismatch (.named "fdai.incident://resource:vm-1") .sev3 .sev2) := by
    decide +kernel
  rw [failed] at replayed
  cases replayed

end Fdai.Core
