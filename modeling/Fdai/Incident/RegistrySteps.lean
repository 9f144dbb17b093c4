import Fdai.Concurrency.Sequential
import Fdai.Incident.Rehydrates

/-!
# What an operation does

A registry on its own takes a few kinds of steps: it reloads its index, or it appends a row
and puts the incident of that row into the index.

* `RegistryStep` — the steps of one operation, with what the registry knows at each.
* `kept_program` — what every step of an operation keeps, the operation keeps; and it raises
  for two active incidents only where the lookup does.
-/

namespace Fdai.Core

open Fdai.Sequences Fdai.Concurrency Program

abbrev Indexed (registry : ℕ) (w : RegistryWorld) (incident : Incident) : Prop :=
  (w.index registry).get incident.incidentId = some incident

structure After (w : RegistryWorld) (row : Row) (w' : RegistryWorld) : Prop where
  index : w'.index = w.index
  rows : w'.store.rows = w.store.rows ++ [row]

def RegistryWorld.indexed (w : RegistryWorld) (registry : ℕ) (incidents : Incidents) :
    RegistryWorld :=
  { w with index := Function.update w.index registry incidents }

@[simp] theorem RegistryWorld.index_indexed (w : RegistryWorld) (registry : ℕ)
    (incidents : Incidents) : (w.indexed registry incidents).index registry = incidents :=
  Function.update_self _ _ _

/-- The world with an incident put into the index. -/
abbrev RegistryWorld.put (w : RegistryWorld) (registry : ℕ) (updated : Incident) :
    RegistryWorld :=
  w.indexed registry ((w.index registry).put updated)

theorem After.index_put {registry : ℕ} {w w' : RegistryWorld} {row : Row} {updated : Incident}
    (after : After w row w') :
    (w'.put registry updated).index registry = (w.index registry).put updated := by
  rw [RegistryWorld.index_indexed, after.index]

/-- The incident that an opening finds in the index. -/
def foundIncident (incidents : Incidents) (request : OpenRequest) : Option Incident :=
  match canonicalIncidentCorrelationKeys request.correlationKeys with
  | .error _ => none
  | .ok keys =>
    match incidentIdFor keys with
    | .error _ => none
    | .ok incidentId =>
      match incidents.get incidentId, activeIncidentForEpisode incidents keys with
      | some existing, _ => some existing
      | none, .ok found => found
      | none, .error _ => none

theorem mem_of_active {incidents : Incidents} {keys : List String} {existing : Incident}
    (active : activeIncidentForEpisode incidents keys = .ok (some existing)) :
    existing ∈ incidents.values := by
  unfold activeIncidentForEpisode at active
  split at active
  · cases active
  dsimp only at active
  split at active
  · cases active
  · exact (List.mem_filter.1 (List.mem_of_head? (Except.ok.inj active))).1

/-- What is known of an incident that a registry creates: the opening found none, and its row
was appended with a number. -/
structure Creates (registry : ℕ) (r : OpenRequest) (w w' : RegistryWorld) (incidentId : Uuid)
    (keys : List String) (incident : Incident) (entry : OpenEntry) (number : String) : Prop where
  actor : strip r.actorOid ≠ ""
  aware : ∃ openedAt, awareOpenedAt r.openedAt = .ok openedAt
  canonical : canonicalIncidentCorrelationKeys r.correlationKeys = .ok keys
  id : incidentIdFor keys = .ok incidentId
  absent : (w.index registry).get incidentId = none
  inactive : activeIncidentForEpisode (w.index registry) keys = .ok none
  created : ∃ opened, Incident.create incidentId none .opened r.severity opened keys
    (distinctMembers r.memberEventIds) r.assigneeOid = .ok incident
  built : openAuditEntry incident r.actorOid = .ok (.opened entry)
  valid : IncidentNumber number
  after : After w (.opened { entry with incidentNumber := some number }) w'

/-- What is known of a transition whose row was appended. -/
structure Transits (registry : ℕ) (r : TransitionRequest) (w w' : RegistryWorld)
    (incident : Incident) (transition : IncidentTransition) : Prop where
  got : (w.index registry).get r.incidentId = some incident
  legal : r.toState ∈ legalTransitions incident.state
  reopens : ¬ (r.severity.getD incident.severity ≠ incident.severity ∧
    ¬ (incident.state = .resolved ∧ r.toState = .triaging))
  created : ∃ moment, IncidentTransition.create r.incidentId incident.state r.toState r.actorOid
    moment r.reason = .ok transition
  after : After w (transitionAuditEntry transition incident (r.severity.getD incident.severity)) w'

/-- **A step of an operation** whose registry had the index `start` when it began. -/
inductive RegistryStep (registry : ℕ) (request : RegistryRequest) (start : Incidents)
    (w : RegistryWorld) : RegistryWorld → Prop
  | reloaded {restored : Incidents} (replayed : rehydrateIncidents w.store.rows = .ok restored) :
      RegistryStep registry request start w (w.indexed registry restored)
  | escalated {r : OpenRequest} {canonical : Incident} {at_ : Stamp} {row : Row}
      {w' : RegistryWorld} (isCall : request = .opening r) (indexed : Indexed registry w canonical)
      (escalates : ¬ canonical.severity.rank ≤ r.severity.rank)
      (built : severityAuditEntry canonical r.severity r.actorOid at_ = .ok row)
      (after : After w row w') : RegistryStep registry request start w
        (w'.put registry { canonical with severity := r.severity })
  | grown {r : OpenRequest} {incident existing : Incident} {at_ : Stamp} {row : Row}
      {w' : RegistryWorld} (isCall : request = .opening r)
      (found : foundIncident start r = some existing)
      (same : incident.incidentId = existing.incidentId) (indexed : Indexed registry w incident)
      (nonempty : addedMembers r.memberEventIds incident ≠ [])
      (built : membersAuditEntry (incident.addMembers (addedMembers r.memberEventIds incident))
        (addedMembers r.memberEventIds incident) r.actorOid at_ = .ok row)
      (after : After w row w') : RegistryStep registry request start w
        (w'.put registry (incident.addMembers (addedMembers r.memberEventIds incident)))
  /-- Another registry was first, and its incident gets the members. -/
  | joined {r : OpenRequest} {restored : Incidents} {incidentId : Uuid} {canonical : Incident}
      {added : List Uuid} {at_ : Stamp} {row : Row} {w' : RegistryWorld}
      (absent : (w.index registry).get incidentId = none)
      (replayed : rehydrateIncidents w.store.rows = .ok restored)
      (got : restored.get incidentId = some canonical)
      (built : membersAuditEntry (canonical.addMembers added) added r.actorOid at_ = .ok row)
      (after : After (w.indexed registry restored) row w') :
      RegistryStep registry request start w w'
  | created {r : OpenRequest} {incidentId : Uuid} {keys : List String} {incident : Incident}
      {entry : OpenEntry} {number : String} {w' : RegistryWorld} (isCall : request = .opening r)
      (begins : w.index registry = start)
      (creates : Creates registry r w w' incidentId keys incident entry number) :
      RegistryStep registry request start w
        (w'.put registry { incident with incidentNumber := some number })
  | transited {r : TransitionRequest} {incident : Incident} {transition : IncidentTransition}
      {w' : RegistryWorld} (isCall : request = .transition r) (begins : w.index registry = start)
      (transits : Transits registry r w w' incident transition) :
      RegistryStep registry request start w (w'.put registry
        (applyIncidentTransition incident transition (r.severity.getD incident.severity)))
  | assigned {r : AssignRequest} {incident : Incident} {at_ : Stamp} {row : Row}
      {w' : RegistryWorld} (isCall : request = .assign r) (indexed : Indexed registry w incident)
      (changes : incident.assigneeOid ≠ strippedOrNone r.assigneeOid)
      (built : assignmentAuditEntry incident (strippedOrNone r.assigneeOid) r.actorOid at_ =
        .ok row)
      (after : After w row w') : RegistryStep registry request start w
        (w'.put registry { incident with assigneeOid := strippedOrNone r.assigneeOid })
  | linked {incident : Incident} {link : IncidentTicketLink} {w' : RegistryWorld}
      (got : (w.index registry).get link.incidentId = some incident)
      (after : After w (ticketAuditEntry link) w') : RegistryStep registry request start w w'

/-! ## Judgements -/

/-- What a program of a registry on its own meets. -/
abbrev Meets {α : Type} (p : Registering α) (w : RegistryWorld)
    (post : Except IncidentError α → RegistryWorld → Prop) : Prop :=
  Sat registryMachine.alone post p w

/-- What a program comes to, with an invariant `inv`: a value of which something is known, or an
exception. It is the one for two active incidents only if the lookup raised it. -/
def Comes {α : Type} (inv : RegistryWorld → Prop) (start : Incidents)
    (known : α → RegistryWorld → Prop) : Except IncidentError α → RegistryWorld → Prop
  | .ok value, w => known value w
  | .error error, w => inv w ∧ (error = .conflict .manyActive →
      ∃ keys, activeIncidentForEpisode start keys = .error error)

/-- The invariant, whatever was returned. -/
abbrev Kept {α : Type} (inv : RegistryWorld → Prop) (start : Incidents) :
    Except IncidentError α → RegistryWorld → Prop :=
  Comes inv start fun _ w => inv w

section

variable {registry : ℕ} {request : RegistryRequest} {start : Incidents} {α β : Type}
  {inv : RegistryWorld → Prop} {w : RegistryWorld}

theorem meets_ask {op : RegistryOp} {f : op.Ans → Registering β}
    {post : Except IncidentError β → RegistryWorld → Prop}
    (answered : ∀ oracle, Meets (f (w.perform oracle op).1) (w.perform oracle op).2 post) :
    Meets (Registering.ask op >>= f) w post :=
  Machine.sat_alone_call answered

theorem meets_orNow {post : Except IncidentError β → RegistryWorld → Prop} {at_ : Option Stamp}
    {f : Stamp → Registering β} (next : ∀ stamp, Meets (f stamp) w post) :
    Meets (Registering.orNow at_ >>= f) w post := by
  cases at_ with
  | some stamp => exact next stamp
  | none => exact meets_ask fun oracle => next _

theorem meets_momentOrNow {post : Except IncidentError β → RegistryWorld → Prop}
    {at_ : Option Moment} {f : Moment → Registering β}
    (next : ∀ moment, Meets (f moment) w post) :
    Meets (Registering.momentOrNow at_ >>= f) w post := by
  cases at_ with
  | some moment => exact next moment
  | none => exact meets_ask fun oracle => next _

variable {known : β → RegistryWorld → Prop}

theorem comes_throw {error : IncidentError} (holds : inv w) (other : error ≠ .conflict .manyActive) :
    Meets (throw error : Registering β) w (Comes inv start known) :=
  ⟨holds, fun same => absurd same other⟩

theorem comes_bind {p : Registering α} {f : α → Registering β}
    {known' : α → RegistryWorld → Prop} (first : Meets p w (Comes inv start known'))
    (next : ∀ value w', known' value w' → Meets (f value) w' (Comes inv start known)) :
    Meets (p >>= f) w (Comes inv start known) := by
  refine sat_bind (first.mono fun r w' reached => ?_)
  cases r with
  | ok value => exact next value w' reached
  | error error => exact reached

theorem comes_checked {checked : Except String α} {f : α → Registering β} (holds : inv w)
    (next : ∀ value, checked = .ok value → Meets (f value) w (Comes inv start known)) :
    Meets (Registering.checked checked >>= f) w (Comes inv start known) := by
  cases checked with
  | ok value => exact next value rfl
  | error message => exact comes_throw holds (by simp)

/-- The projection changes nothing here, but it may raise. -/
theorem comes_project {incident : Incident} {updatedAt : Stamp} {f : Unit → Registering β}
    (holds : inv w) (next : Meets (f ()) w (Comes inv start known)) :
    Meets (Registering.project registry incident updatedAt >>= f) w (Comes inv start known) := by
  refine meets_ask fun oracle => ?_
  change Meets ((if oracle.projects then pure () else throw .projection) >>= f) w _
  cases oracle.projects with
  | true => exact next
  | false => exact comes_throw holds (by simp)

end

/-- The store does not know what it is to find two active incidents. -/
theorem classifyIncidentAppend_ne_manyActive (history : List Row) (entry : Row) :
    classifyIncidentAppend history entry ≠ .error .manyActive := by
  unfold classifyIncidentAppend
  cases history.find? (·.idempotencyKey = entry.idempotencyKey) with
  | some duplicate =>
    dsimp only
    split <;> simp
  | none => cases openedRow history entry.incidentId with
    | none => cases entry <;> simp
    | some opened => cases entry with
      | members | ticket => simp [classifyOpened]
      | opened | transition | assigned | severity =>
        simp only [classifyOpened]
        split_ifs <;> simp

theorem append_ne_manyActive (store : IncidentStore) (row : Row) :
    (store.append row).1 ≠ .error (.conflict .manyActive) := by
  have refused := classifyIncidentAppend_ne_manyActive store.rows row
  unfold IncidentStore.append
  split
  · simp
  · split <;> simp_all

theorem appendOpen_ne_manyActive (store : IncidentStore) (row : Row) (numberPrefix : String) :
    (store.appendOpen row numberPrefix).1 ≠ .error (.conflict .manyActive) := by
  have refused := classifyIncidentAppend_ne_manyActive store.rows row
  unfold IncidentStore.appendOpen
  split
  · split
    · simp_all
    · simp
    · dsimp only
      split <;> simp
  · simp

/-- What persisting a row comes to, where it does not raise. -/
def Appended (w : RegistryWorld) (row : Row) : IncidentAppendStatus → RegistryWorld → Prop
  | .applied, w' => After w row w'
  | .duplicate, w' => w' = w

/-! ## Programs -/

section

variable {registry : ℕ} {request : RegistryRequest} {start : Incidents}
  {inv : RegistryWorld → Prop} {w : RegistryWorld}
  (steps : ∀ w w', inv w → RegistryStep registry request start w w' → inv w')

include steps

variable {incidentId : Uuid} {row : Row}

/-- **A reload** ends with an incident of the index that the rows give. -/
theorem comes_reloaded (holds : inv w) :
    Meets (reloadCanonical registry incidentId) w (Comes inv start fun incident w' =>
      ∃ restored, rehydrateIncidents w.store.rows = .ok restored ∧
        restored.get incidentId = some incident ∧ w' = w.indexed registry restored) := by
  refine meets_ask fun oracle => ?_
  dsimp only [RegistryWorld.perform]
  rcases replayed : rehydrateIncidents w.store.rows with why | restored
  · exact comes_throw holds (by simp)
  refine meets_ask fun oracle => ?_
  have holds' : inv (w.indexed registry restored) := steps _ _ holds (.reloaded replayed)
  dsimp only [RegistryWorld.perform]
  rcases got : restored.get incidentId with _ | incident
  · exact comes_throw holds' (by simp)
  exact ⟨restored, rfl, got, rfl⟩

theorem comes_reloadCanonical (holds : inv w) :
    Meets (reloadCanonical registry incidentId) w (Comes inv start fun incident w' =>
      inv w' ∧ Indexed registry w' incident ∧ incident.incidentId = incidentId) := by
  refine (comes_reloaded steps holds).mono fun r w' reached => ?_
  rcases r with error | incident
  · exact reached
  obtain ⟨restored, replayed, got, rfl⟩ := reached
  obtain rfl := Keyed.key_of_get got
  refine ⟨steps _ _ holds (.reloaded replayed), ?_, rfl⟩
  rw [Indexed, RegistryWorld.index_indexed]
  exact got

theorem comes_persist (holds : inv w) :
    Meets (persist registry row incidentId) w (Comes inv start (Appended w row)) := by
  refine meets_ask fun oracle => ?_
  dsimp only [RegistryWorld.perform]
  have notMany := append_ne_manyActive w.store row
  rcases append_cases w.store row with ⟨same, notApplied⟩ | ⟨-, -, answer, grown⟩
  · rw [same]
    cases answer : (w.store.append row).1 with
    | ok status => cases status with
      | applied => exact absurd answer notApplied
      | duplicate => exact rfl
    | error error =>
      rw [answer] at notMany
      cases error with
      | conflict why =>
        refine comes_bind (comes_reloadCanonical steps holds) fun _ w' reached => ?_
        exact comes_throw reached.1 (by simpa using notMany)
      | value | unknownIncident | replay | projection => exact comes_throw holds (by simp)
  · rw [answer, grown]
    exact ⟨rfl, rfl⟩

theorem comes_persistOpen {numberPrefix : String} (holds : inv w) :
    Meets (persistOpen registry row incidentId numberPrefix) w (Comes inv start
      fun result w' => match result.1 with
        | .applied => ∃ opened text, row = .opened opened ∧ result.2 = some text ∧
            IncidentNumber text ∧ After w (.opened { opened with incidentNumber := some text }) w'
        | .duplicate => w' = w) := by
  refine meets_ask fun oracle => ?_
  dsimp only [RegistryWorld.perform]
  have notMany := appendOpen_ne_manyActive w.store row numberPrefix
  rcases appendOpen_cases w.store row numberPrefix with
    ⟨same, notApplied⟩ | ⟨opened, text, rfl, -, valid, answer, grown⟩
  · rw [same]
    cases answer : (w.store.appendOpen row numberPrefix).1 with
    | ok result =>
      obtain ⟨status, number⟩ := result
      cases status with
      | applied => exact absurd answer (notApplied number)
      | duplicate => exact rfl
    | error error =>
      rw [answer] at notMany
      cases error with
      | conflict why =>
        refine comes_bind (comes_reloadCanonical steps holds) fun _ w' reached => ?_
        exact comes_throw reached.1 (by simpa using notMany)
      | value | unknownIncident | replay | projection => exact comes_throw holds (by simp)
  · rw [answer]
    exact ⟨opened, text, rfl, rfl, valid, rfl, grown⟩

theorem comes_tryPersist (holds : inv w) :
    Meets (tryPersist registry row incidentId) w (Comes inv start fun status w' =>
      match status with
      | none => inv w'
      | some status => Appended w row status w') := by
  refine sat_tryCatch ?_
  rw [map_eq_pure_bind]
  refine sat_bind ((comes_persist steps holds).mono fun result w' reached => ?_)
  cases result with
  | ok status => exact reached
  | error error => cases error with
    | conflict why => exact reached.1
    | value | unknownIncident | replay | projection => exact reached

theorem comes_escalateSeverityIfNeeded {r : OpenRequest} (isCall : request = .opening r)
    {at_ : Stamp} (attempts : ℕ) {canonical : Incident} (holds : inv w)
    (indexed : Indexed registry w canonical) :
    Meets (escalateSeverityIfNeeded registry r.severity r.actorOid at_ attempts canonical) w
      (Comes inv start fun result w' => inv w' ∧ Indexed registry w' result.1 ∧
        result.1.incidentId = canonical.incidentId) := by
  induction attempts generalizing w canonical with
  | zero => exact comes_throw holds (by simp)
  | succ attempts ih =>
    unfold escalateSeverityIfNeeded
    split
    · exact ⟨holds, indexed, rfl⟩
    rename_i escalates
    refine comes_checked holds fun row built => ?_
    refine comes_bind (comes_tryPersist steps holds) fun status w' reached => ?_
    rcases status with _ | status
    · refine comes_bind (comes_reloadCanonical steps reached) fun incident w'' reloaded => ?_
      have again := ih reloaded.1 reloaded.2.1
      rwa [reloaded.2.2] at again
    cases status with
    | duplicate =>
      obtain rfl : w' = w := reached
      exact comes_bind (comes_reloadCanonical steps holds) fun incident w'' reloaded => reloaded
    | applied =>
      have after : After w row w' := reached
      refine meets_ask fun oracle => ?_
      have holds' : inv (w'.put registry { canonical with severity := r.severity }) :=
        steps _ _ holds (.escalated isCall indexed escalates built after)
      refine comes_project holds' ⟨holds', ?_, rfl⟩
      change ((w'.put registry _).index registry).get canonical.incidentId = _
      rw [RegistryWorld.index_indexed]
      exact Keyed.get_put_self

/-- Persisting a row that is followed by a reload, or by putting its incident back. -/
theorem comes_append {α : Type} {f : IncidentAppendStatus → Registering α}
    {known : α → RegistryWorld → Prop} (holds : inv w)
    (duplicate : Meets (f .duplicate) w (Comes inv start known))
    (applied : ∀ w', After w row w' → Meets (f .applied) w' (Comes inv start known)) :
    Meets (persist registry row incidentId >>= f) w (Comes inv start known) := by
  refine comes_bind (comes_persist steps holds) fun status w' appended => ?_
  cases status with
  | applied => exact applied w' appended
  | duplicate =>
    obtain rfl : w' = w := appended
    exact duplicate

theorem kept_growIncident {r : OpenRequest} (isCall : request = .opening r) {existing : Incident}
    (found : foundIncident start r = some existing) (holds : inv w)
    (indexed : Indexed registry w existing) :
    Meets (growIncident registry r existing) w (Kept inv start) := by
  refine meets_orNow fun escalatedAt => ?_
  refine comes_bind (comes_escalateSeverityIfNeeded steps isCall 2 holds indexed)
    fun result w' escalated => ?_
  obtain ⟨incident, severityChanged, previousSeverity⟩ := result
  obtain ⟨holds, indexed, same⟩ := escalated
  change Meets (if _ then _ else _) w' _
  split
  · exact holds
  rename_i grows
  have nonempty : addedMembers r.memberEventIds incident ≠ [] := by
    intro nothing
    refine grows ?_
    rw [nothing]
    exact List.append_nil _
  refine meets_orNow fun at_ => comes_checked holds fun row built => ?_
  refine comes_append steps holds ?_ fun w'' after => ?_
  · exact comes_bind (comes_reloadCanonical steps holds) fun _ _ reloaded => reloaded.1
  · refine meets_ask fun oracle => ?_
    exact steps _ _ holds (.grown isCall found same indexed nonempty built after)

theorem kept_joinIncident {r : OpenRequest} {openedAt : Moment} (holds : inv w)
    (absent : (w.index registry).get incidentId = none) :
    Meets (joinIncident registry r openedAt incidentId) w (Kept inv start) := by
  refine comes_bind (comes_reloaded steps holds) fun canonical w' reloaded => ?_
  obtain ⟨restored, replayed, got, rfl⟩ := reloaded
  have reloaded : inv (w.indexed registry restored) := steps _ _ holds (.reloaded replayed)
  dsimp only
  split
  · exact reloaded
  refine comes_checked reloaded fun row built => ?_
  refine comes_append steps reloaded ?_ fun w' after => ?_
  · exact comes_bind (comes_reloadCanonical steps reloaded) fun _ _ known => known.1
  · have holds' : inv w' := steps _ _ holds (.joined absent replayed got built after)
    exact comes_bind (comes_reloadCanonical steps holds') fun _ _ known => known.1

theorem kept_openWithStatus {r : OpenRequest} (isCall : request = .opening r) (holds : inv w)
    (begins : w.index registry = start) :
    Meets (openWithStatus registry r) w (Kept inv start) := by
  unfold openWithStatus
  split
  · exact comes_throw holds (by simp)
  rename_i actor
  refine comes_checked holds fun openedAt aware => comes_checked holds fun keys canonical =>
    comes_checked holds fun incidentId id => meets_ask fun _ => ?_
  dsimp only [RegistryWorld.perform]
  cases got : (w.index registry).get incidentId with
  | some existing =>
    have found : foundIncident start r = some existing := by
      simp only [foundIncident, canonical, id, ← begins, got]
    refine kept_growIncident steps isCall found holds ?_
    rw [Indexed, Keyed.key_of_get got, got]
  | none =>
    dsimp only [RegistryWorld.perform]
    rcases active : activeIncidentForEpisode (w.index registry) keys with error | _ | existing
    · exact ⟨holds, fun _ => ⟨keys, begins ▸ active⟩⟩
    · refine meets_momentOrNow fun opened => meets_ask fun oracle => ?_
      dsimp only [RegistryWorld.perform]
      rcases oracle.numberPrefix with _ | numberPrefix
      · exact comes_throw holds (by simp)
      refine comes_checked holds fun incident created => comes_checked holds fun row built => ?_
      rw [(canonicalKeys_of_canonical canonical).sortedSet_filter] at created
      refine comes_bind (comes_persistOpen steps holds) fun result w' persisted => ?_
      obtain ⟨status, number⟩ := result
      cases status with
      | duplicate =>
        obtain rfl : w' = w := persisted
        exact kept_joinIncident steps holds got
      | applied =>
        obtain ⟨entry, number, rfl, rfl, valid, after⟩ := persisted
        refine meets_ask fun oracle => ?_
        have holds' := steps _ _ holds (.created isCall begins
          ⟨actor, ⟨openedAt, aware⟩, canonical, id, got, active, ⟨opened, created⟩, built,
            valid, after⟩)
        exact comes_project holds' holds'
    · have found : foundIncident start r = some existing := by
        simp only [foundIncident, canonical, id, ← begins, got, active]
      exact kept_growIncident steps isCall found holds (Keyed.get_of_mem (mem_of_active active))

theorem kept_transitionWithStatus {r : TransitionRequest} (isCall : request = .transition r)
    (holds : inv w) (begins : w.index registry = start) :
    Meets (transitionWithStatus registry r) w (Kept inv start) := by
  refine meets_ask fun _ => ?_
  dsimp only [RegistryWorld.perform]
  rcases got : (w.index registry).get r.incidentId with _ | incident
  · exact comes_throw holds (by simp)
  dsimp only
  split
  · unfold confirmState
    split
    · exact comes_throw holds (by simp)
    refine comes_bind (comes_reloadCanonical steps holds) fun canonical w' reloaded => ?_
    split
    · exact comes_throw reloaded.1 (by simp)
    · exact reloaded.1
  refine comes_checked holds fun _ legal => ?_
  split
  · exact comes_throw holds (by simp)
  rename_i reopens
  refine meets_orNow fun moment => comes_checked holds fun transition created => ?_
  refine comes_append steps holds ?_ fun w' after => ?_
  · refine comes_bind (comes_reloadCanonical steps holds) fun canonical w' reloaded => ?_
    split
    · exact comes_throw reloaded.1 (by simp)
    · exact reloaded.1
  · refine meets_ask fun oracle => ?_
    have holds' := steps _ _ holds (.transited isCall begins
      ⟨got, IncidentStateMachine.validate_eq_ok.1 legal, reopens, ⟨moment, created⟩, after⟩)
    exact comes_project holds' holds'

theorem kept_assignWithStatus {r : AssignRequest} (isCall : request = .assign r) (holds : inv w) :
    Meets (assignWithStatus registry r) w (Kept inv start) := by
  refine meets_ask fun _ => ?_
  dsimp only [RegistryWorld.perform]
  rcases got : (w.index registry).get r.incidentId with _ | incident
  · exact comes_throw holds (by simp)
  dsimp only
  split
  · refine comes_bind (comes_reloadCanonical steps holds) fun canonical w' reloaded => ?_
    split
    · exact comes_throw reloaded.1 (by simp)
    · exact reloaded.1
  rename_i changes
  refine meets_orNow fun moment => comes_checked holds fun row built => ?_
  refine comes_append steps holds ?_ fun w' after => ?_
  · exact comes_bind (comes_reloadCanonical steps holds) fun _ _ reloaded => reloaded.1
  · refine meets_ask fun oracle => ?_
    have indexed : Indexed registry w incident := by rw [Indexed, Keyed.key_of_get got, got]
    exact steps _ _ holds (.assigned isCall indexed changes built after)

theorem kept_linkTicket {r : TicketRequest} (holds : inv w) :
    Meets (linkTicket registry r) w (Kept inv start) := by
  refine comes_checked holds fun _ _ => meets_orNow fun moment => meets_ask fun _ => ?_
  dsimp only [RegistryWorld.perform]
  rcases got : (w.index registry).get r.incidentId with _ | incident
  · exact comes_throw holds (by simp)
  refine comes_checked holds fun link created => ?_
  have linkId : link.incidentId = r.incidentId := by
    unfold IncidentTicketLink.create at created
    split at created
    · split at created
      · obtain rfl := Except.ok.inj created
        rfl
      · cases created
    · cases created
  refine comes_append steps holds holds fun w' after => ?_
  exact steps _ _ holds (.linked (linkId ▸ got) after)

theorem kept_rehydrate (holds : inv w) : Meets (rehydrate registry) w (Kept inv start) := by
  refine meets_ask fun oracle => ?_
  dsimp only [RegistryWorld.perform]
  cases replayed : rehydrateIncidents w.store.rows with
  | error why => exact comes_throw holds (by simp)
  | ok restored => exact meets_ask fun oracle => steps _ _ holds (.reloaded replayed)

/-- **What every step of an operation keeps**, the operation keeps. -/
theorem kept_program (holds : inv w) (begins : w.index registry = start) :
    Meets (RegistryCall.program ⟨registry, request⟩) w (Kept inv start) := by
  have mapped {α : Type} {p : Registering α} {f : α → RegistryResult}
      (kept : Meets p w (Kept inv start)) : Meets (f <$> p) w (Kept inv start) := by
    rw [map_eq_pure_bind]
    exact comes_bind kept fun _ _ holds => holds
  cases request with
  | opening r => exact mapped (kept_openWithStatus steps rfl holds begins)
  | transition r => exact mapped (kept_transitionWithStatus steps rfl holds begins)
  | assign r => exact mapped (kept_assignWithStatus steps rfl holds)
  | linkTicket r => exact mapped (kept_linkTicket steps holds)
  | rehydrate => exact mapped (kept_rehydrate steps holds)

end

end Fdai.Core
