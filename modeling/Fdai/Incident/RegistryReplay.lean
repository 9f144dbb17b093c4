import Fdai.Incident.RegistrySteps

/-!
# The index and the rows

A registry on its own, that writes a row before it changes its index, keeps the index equal
to the replay of its rows — but for two cases. It opens an incident with an empty assignee,
which the replay reads as none; and it keeps a member that one request names twice, which
the replay takes once.

* `Faithful` — the condition on a request.
* `InStep` — the invariant: the replay of the rows is the index.
* `registry_equals_replay` — every session of faithful requests keeps it.
-/

namespace Fdai.Core

open Fdai.Sequences Fdai.Concurrency Program

/-- A call to the registry. An opening that finds no incident names no blank assignee, and
one that finds an incident names no new member twice. -/
def Faithful (registry : ℕ) (w : RegistryWorld) (call : RegistryCall) : Prop :=
  call.registry = registry ∧
    match call.request with
    | .opening request =>
      match foundIncident (w.index registry) request with
      | none => request.assigneeOid.map strip ≠ some ""
      | some existing => (addedMembers request.memberEventIds existing).Nodup
    | _ => True

instance (registry : ℕ) (w : RegistryWorld) (call : RegistryCall) :
    Decidable (Faithful registry w call) := by
  unfold Faithful
  refine @instDecidableAnd _ _ _ ?_
  split
  · split <;> infer_instance
  · infer_instance

/-- The replay of the rows is the index of the registry. No incident has an empty assignee
or a member twice. -/
structure InStep (registry : ℕ) (w : RegistryWorld) : Prop where
  replayed : rehydrateIncidents w.store.rows = .ok (w.index registry)
  assignee : ∀ incidentId incident, (w.index registry).get incidentId = some incident →
    optionalString incident.assigneeOid = incident.assigneeOid
  distinct : ∀ incidentId incident, (w.index registry).get incidentId = some incident →
    incident.memberEventIds.Nodup

theorem InStep.empty (registry : ℕ) : InStep registry {} :=
  ⟨rfl, fun _ _ found => (nomatch found), fun _ _ found => (nomatch found)⟩

section

variable {registry : ℕ} {w : RegistryWorld} {incident : Incident}

/-! ## Rows of the registry, replayed -/

/-- A row that the replay takes to the index with one incident put back. -/
structure Puts (registry : ℕ) (w : RegistryWorld) (row : Row) (updated : Incident) : Prop where
  replays : replayRow (w.index registry) row = .ok ((w.index registry).put updated)
  assignee : optionalString updated.assigneeOid = updated.assigneeOid
  distinct : updated.memberEventIds.Nodup

variable {row : Row}

/-- **Row, then index.** Once the row is there, putting the incident back brings the
index into step again. -/
theorem InStep.put {w' : RegistryWorld} {updated : Incident}
    (inStep : InStep registry w) (puts : Puts registry w row updated) (after : After w row w') :
    InStep registry (w'.put registry updated) := by
  have put (incidentId : Uuid) (incident : Incident)
      (found : ((w'.put registry updated).index registry).get incidentId = some incident) :
      incident = updated ∨ (w.index registry).get incidentId = some incident := by
    rw [after.index_put, Keyed.get_put] at found
    split at found
    · exact .inl (Option.some.inj found).symm
    · exact .inr found
  refine ⟨?_, fun incidentId incident found => ?_, fun incidentId incident found => ?_⟩
  · rw [after.index_put]
    change rehydrateIncidents w'.store.rows = _
    rw [after.rows, rehydrateIncidents_append, inStep.replayed]
    exact puts.replays
  · rcases put incidentId incident found with rfl | found
    · exact puts.assignee
    · exact inStep.assignee _ _ found
  · rcases put incidentId incident found with rfl | found
    · exact puts.distinct
    · exact inStep.distinct _ _ found

theorem distinctMembers_of_nodup {members : List Uuid} (nodup : members.Nodup) :
    distinctMembers members = members := by
  induction members with
  | nil => rfl
  | cons member rest ih =>
    obtain ⟨fresh, nodup⟩ := List.nodup_cons.1 nodup
    rw [distinctMembers, ih nodup, List.filter_eq_self.2]
    intro other isOther
    simpa using ne_of_mem_of_not_mem isOther fresh

theorem nodup_distinctMembers (members : List Uuid) : (distinctMembers members).Nodup := by
  induction members with
  | nil => exact List.nodup_nil
  | cons member rest ih => exact List.nodup_cons.2 ⟨by simp, ih.filter _⟩

variable {existing : Incident} {actorOid : String} {at_ : Stamp}

/-- The members row of a growth without repetitions. -/
theorem puts_members {members added : List Uuid} (inStep : InStep registry w)
    (indexed : Indexed registry w existing)
    (new : added = addedMembers members existing) (nonempty : added ≠ [])
    (nodup : added.Nodup)
    (built : membersAuditEntry (existing.addMembers added) added actorOid at_ = .ok row) :
    Puts registry w row (existing.addMembers added) := by
  obtain ⟨actor, moment, rfl⟩ := of_requireActorAndTime built
  have distinct : (existing.memberEventIds ++ added).Nodup := by
    refine List.nodup_append.2 ⟨inStep.distinct _ _ indexed, nodup, ?_⟩
    rintro member isMember _ isAdded rfl
    rw [new, addedMembers, List.mem_filter] at isAdded
    simpa [isMember] using isAdded.2
  refine ⟨?_, inStep.assignee existing.incidentId existing indexed, distinct⟩
  have same : existing.withMembers added = existing.addMembers added := by
    simp only [Incident.withMembers, Incident.addMembers, distinctMembers_of_nodup distinct]
  change replayMembers _ ⟨existing.incidentId, _, _, _, _, added⟩ = _
  simp only [replayMembers, requireExistingIncident_eq_ok indexed, requiredIdList, if_neg nonempty]
  change Except.ok _ = Except.ok _
  rw [same]

variable {target : IncidentSeverity}

theorem puts_severity {canonical : Incident} (inStep : InStep registry w)
    (indexed : Indexed registry w canonical) (escalates : ¬ canonical.severity.rank ≤ target.rank)
    (built : severityAuditEntry canonical target actorOid at_ = .ok row) :
    Puts registry w row { canonical with severity := target } := by
  obtain ⟨actor, moment, rfl⟩ := of_requireActorAndTime built
  refine ⟨?_, inStep.assignee canonical.incidentId canonical indexed,
    inStep.distinct canonical.incidentId canonical indexed⟩
  change replaySeverity _ ⟨canonical.incidentId, _, canonical.severity, target, _, _⟩ = _
  simp only [replaySeverity, requireExistingIncident_eq_ok indexed]
  change (if _ then _ else _) = _
  rw [if_neg (not_not.2 rfl), if_neg escalates]
  rfl

theorem puts_assignment {target : Option String} (inStep : InStep registry w)
    (indexed : Indexed registry w incident) (changes : incident.assigneeOid ≠ target)
    (text : optionalString target = target)
    (built : assignmentAuditEntry incident target actorOid at_ = .ok row) :
    Puts registry w row { incident with assigneeOid := target } := by
  obtain ⟨actor, moment, rfl⟩ := of_requireActorAndTime built
  refine ⟨?_, text, inStep.distinct incident.incidentId incident indexed⟩
  change replayAssignment _ ⟨incident.incidentId, _, _, incident.assigneeOid, target, _, _⟩ = _
  simp only [replayAssignment, requireExistingIncident_eq_ok indexed, text,
    inStep.assignee _ _ indexed]
  change (if _ then _ else _) = _
  rw [if_neg changes, if_neg (not_not.2 rfl)]
  rfl

/-- The reason of a transition is read as none where it is empty. -/
theorem applyIncidentTransition_reason
    {transition transition' : IncidentTransition} {severity : IncidentSeverity}
    (toState : transition'.toState = transition.toState)
    (moment : transition'.moment = transition.moment)
    (reason : transition'.reason = optionalString transition.reason) :
    applyIncidentTransition incident transition' severity =
      applyIncidentTransition incident transition severity := by
  unfold applyIncidentTransition
  rw [toState, moment, reason]
  congr 1
  rcases transition.reason with _ | text
  · rfl
  by_cases empty : text = ""
  · simp [empty]
  · rw [optionalString_text empty]

/-- The row of a transition. -/
theorem puts_transition {transition : IncidentTransition} (inStep : InStep registry w)
    (indexed : Indexed registry w incident)
    (ofId : transition.incidentId = incident.incidentId)
    (fromState : transition.fromState = incident.state)
    (legal : transition.toState ∈ legalTransitions incident.state)
    (severity : target = incident.severity ∨
      incident.state = .resolved ∧ transition.toState = .triaging) :
    Puts registry w (transitionAuditEntry transition incident target)
      (applyIncidentTransition incident transition target) := by
  refine ⟨?_, inStep.assignee incident.incidentId incident indexed,
    inStep.distinct incident.incidentId incident indexed⟩
  have got : (w.index registry).get transition.incidentId = some incident := by rw [ofId]; exact indexed
  have actor : transition.actorOid ≠ "" := fun empty =>
    transition.actor_text (by rw [empty, strip_empty])
  have reopens : ¬ (target ≠ incident.severity ∧
      ¬ (incident.state = .resolved ∧ transition.toState = .triaging)) := by
    rintro ⟨changed, notReopen⟩
    exact severity.elim changed notReopen
  change replayTransition _ ⟨transition.incidentId, transition.fromState, transition.toState,
    incident.severity, target, transition.actorOid, transition.moment, transition.reason⟩ = _
  simp only [replayTransition, requireExistingIncident_eq_ok got]
  change (if _ then _ else _) = _
  rw [if_neg (not_not.2 fromState.symm), requiredString, if_neg actor]
  change (orInvalid (IncidentTransition.create _ _ _ _ _ _) >>= _) = _
  rw [IncidentTransition.create, dif_pos transition.actor_text]
  change (orInvalid (IncidentStateMachine.validate _ _) >>= _) = _
  rw [IncidentStateMachine.validate_eq_ok.2 legal]
  change (if _ then _ else _) = _
  rw [if_neg (not_not.2 rfl), if_neg reopens]
  exact congrArg (fun updated => Except.ok ((w.index registry).put updated))
    (applyIncidentTransition_reason rfl rfl rfl)

theorem puts_created {r : OpenRequest} {w' : RegistryWorld} {incidentId : Uuid}
    {keys : List String} {entry : OpenEntry} {number : String}
    (creates : Creates registry r w w' incidentId keys incident entry number)
    (given : r.assigneeOid.map strip ≠ some "") :
    Puts registry w (.opened { entry with incidentNumber := some number })
      { incident with incidentNumber := some number } := by
  obtain ⟨-, -, canonical, id, absent, inactive, ⟨opened, created⟩, built, valid, -⟩ := creates
  replace canonical := canonicalKeys_of_canonical canonical
  obtain ⟨keys_nonempty, members_nonempty, rfl⟩ := create_eq_ok created
  obtain ⟨entry, same, ⟨texts, id', members', assignee'⟩, ofId, state, severity, openedAt, keys_eq,
    members, assignee⟩ :=
      written_openAuditEntry canonical canonical.map_strip id (map_strip_map_strip _) built
  obtain rfl := Row.opened.inj same
  have text : optionalString (r.assigneeOid.map strip) = r.assigneeOid.map strip := by
    cases named : r.assigneeOid.map strip with
    | none => rfl
    | some text => exact optionalString_text fun empty => given (by rw [named, empty])
  have written : Row.Written (.opened { entry with incidentNumber := some number }) :=
    ⟨texts, id', members', assignee'⟩
  obtain ⟨keys_nonempty', parsed⟩ := incidentFromOpenEntry_eq_ok written rfl valid
  -- what the replay reads off the row is the incident that goes into the index
  refine ⟨replayOpen_fresh ?_ absent, text, nodup_distinctMembers _⟩
  rw [parsed]
  simp only [ofId, state, severity, openedAt, keys_eq, members, assignee, text]

/-! ## Steps -/

/-- The index is in step, and the incident that an opening found has no new member twice. -/
structure InStepFor (registry : ℕ) (request : RegistryRequest) (start : Incidents)
    (w : RegistryWorld) : Prop where
  inStep : InStep registry w
  fresh : ∀ r existing incident, request = .opening r → foundIncident start r = some existing →
    (w.index registry).get existing.incidentId = some incident →
    (addedMembers r.memberEventIds incident).Nodup

variable {request : RegistryRequest} {start : Incidents} {w' : RegistryWorld}

theorem InStepFor.put {updated : Incident} (inv : InStepFor registry request start w)
    (puts : Puts registry w row updated) (after : After w row w')
    (fresh : ∀ r existing, request = .opening r → foundIncident start r = some existing →
      updated.incidentId = existing.incidentId → (addedMembers r.memberEventIds updated).Nodup) :
    InStepFor registry request start (w'.put registry updated) := by
  refine ⟨inv.inStep.put puts after, fun r existing incident isCall found got => ?_⟩
  rw [after.index_put, Keyed.get_put] at got
  split at got
  · rename_i same
    obtain rfl := Option.some.inj got
    exact fresh r existing isCall found same.symm
  · exact inv.fresh r existing incident isCall found got

/-- Nothing is left to add. -/
theorem addedMembers_addMembers (members : List Uuid) (incident : Incident) :
    addedMembers members (incident.addMembers (addedMembers members incident)) = [] := by
  refine List.filter_eq_nil_iff.2 fun member isMember => ?_
  by_cases known : member ∈ incident.memberEventIds
  · simp [Incident.addMembers, known]
  · simp [Incident.addMembers, addedMembers, isMember]

/-- **A step** of a faithful call keeps the index in step. -/
theorem InStepFor.step (inv : InStepFor registry request start w)
    (assignee : ∀ r, request = .opening r → foundIncident start r = none →
      r.assigneeOid.map strip ≠ some "")
    (step : RegistryStep registry request start w w') :
    InStepFor registry request start w' := by
  have inStep := inv.inStep
  cases step with
  | reloaded replayed =>
    obtain rfl := Except.ok.inj (replayed.symm.trans inStep.replayed)
    rwa [RegistryWorld.indexed, Function.update_eq_self]
  | @escalated _ canonical _ _ _ isCall indexed escalates built after =>
    refine inv.put (puts_severity inStep indexed escalates built) after
      fun r existing isCall found same => ?_
    have got : (w.index registry).get existing.incidentId = some canonical := by
      rw [← same]
      exact indexed
    exact inv.fresh r existing canonical isCall found got
  | grown isCall found same indexed nonempty built after =>
    have nodup := inv.fresh _ _ _ isCall found (by rw [← same]; exact indexed)
    refine inv.put (puts_members inStep indexed rfl nonempty nodup built) after
      fun r existing isCall' _ _ => ?_
    obtain rfl := RegistryRequest.opening.inj (isCall.symm.trans isCall')
    rw [addedMembers_addMembers]
    exact List.nodup_nil
  | joined absent replayed got =>
    obtain rfl := Except.ok.inj (replayed.symm.trans inStep.replayed)
    rw [absent] at got
    cases got
  | @created r _ _ _ _ _ _ isCall begins creates =>
    have notFound : foundIncident start r = none := by
      simp only [foundIncident, creates.canonical, creates.id, ← begins, creates.absent,
        creates.inactive]
    refine inv.put (puts_created creates (assignee r isCall notFound)) creates.after
      fun r' existing isCall' found => ?_
    obtain rfl := RegistryRequest.opening.inj (isCall.symm.trans isCall')
    rw [notFound] at found
    cases found
  | @transited r incident transition w' isCall begins transits =>
    obtain ⟨got, legal, reopens, ⟨moment, created⟩, after⟩ := transits
    have ofId : incident.incidentId = r.incidentId := Keyed.key_of_get got
    obtain ⟨transitionId, fromState, toState⟩ := IncidentTransition.of_create created
    have severity : r.severity.getD incident.severity = incident.severity ∨
        incident.state = .resolved ∧ transition.toState = .triaging := by
      by_cases same : r.severity.getD incident.severity = incident.severity
      · exact .inl same
      · exact .inr (by simpa [same, toState] using reopens)
    have indexed : Indexed registry w incident := by rw [Indexed, ofId, got]
    refine inv.put (puts_transition inStep indexed (transitionId.trans ofId.symm) fromState
      (by rw [toState]; exact legal) severity) after fun _ _ isCall' => ?_
    cases isCall.symm.trans isCall'
  | @assigned r _ _ _ _ isCall indexed changes built after =>
    have text : optionalString (strippedOrNone r.assigneeOid) = strippedOrNone r.assigneeOid := by
      simp [optionalString, strippedOrNone]
    refine inv.put (puts_assignment inStep indexed changes text built) after fun _ _ isCall' => ?_
    cases isCall.symm.trans isCall'
  | @linked incident link _ got after =>
    refine ⟨⟨?_, by rw [after.index]; exact inStep.assignee,
      by rw [after.index]; exact inStep.distinct⟩, by rw [after.index]; exact inv.fresh⟩
    rw [after.rows, after.index, rehydrateIncidents_append, inStep.replayed]
    change replayRow (w.index registry) (.ticket ⟨link.incidentId, _, _, _, _, _⟩) = _
    rw [replayRow, requireExistingIncident_eq_ok got]
    rfl

theorem get_of_foundIncident {r : OpenRequest} {existing : Incident}
    (found : foundIncident start r = some existing) :
    start.get existing.incidentId = some existing := by
  unfold foundIncident at found
  split at found
  · cases found
  split at found
  · cases found
  split at found
  · rename_i got
    obtain rfl := Option.some.inj found
    rw [Keyed.key_of_get got, got]
  · rename_i active
    obtain rfl := found
    exact Keyed.get_of_mem (mem_of_active active)
  · cases found

/-- **Every call** that is faithful keeps the index in step. -/
theorem sat_program {call : RegistryCall} (inStep : InStep registry w)
    (faithful : Faithful registry w call) : Meets call.program w fun _ => InStep registry := by
  obtain ⟨target, request⟩ := call
  obtain ⟨rfl, faithful⟩ := faithful
  have inv : InStepFor target request (w.index target) w := by
    refine ⟨inStep, fun r existing incident isCall found got => ?_⟩
    obtain rfl := isCall
    obtain rfl := Option.some.inj ((get_of_foundIncident found).symm.trans got)
    simpa only [found] using faithful
  refine (kept_program (fun _ _ inv step => inv.step (fun r isCall notFound => ?_) step) inv
    rfl).mono fun result w' kept => ?_
  · cases result with
    | ok _ => exact kept.inStep
    | error _ => exact kept.1.inStep
  · obtain rfl := isCall
    simpa only [notFound] using faithful

end

/-- The calls of a session, with what the outside answers during each of them. -/
abbrev RegistrySession := List (RegistryCall × (ℕ → RegistryOracle))

/-- **The registry equals the replay** of its rows after every session of faithful calls,
whether they return or raise. -/
theorem registry_equals_replay (registry : ℕ) (calls : RegistrySession)
    (faithful : registryMachine.SessionMeets (Faithful registry) {} calls) :
    rehydrateIncidents (registryMachine.session {} calls).store.rows =
      .ok ((registryMachine.session {} calls).index registry) :=
  (Machine.session_inv (fun _ _ inStep meets => sat_program inStep meets)
    (InStep.empty registry) faithful).replayed

/-- An operator opens an incident or adds to it. -/
private def reportVm (members : List Uuid) (assigneeOid : Option String) :
    RegistryCall × (ℕ → RegistryOracle) :=
  (⟨0, .opening
      { correlationKeys := ["resource:vm-1"], severity := .sev3, memberEventIds := members
        actorOid := "heimdall", assigneeOid }⟩, fun _ => {})

/-- An incident is opened, grows and is assigned. -/
private def faithfulSession : RegistrySession :=
  [reportVm [.given 1, .given 1] none, reportVm [.given 1, .given 2] none,
    (⟨0, .assign { incidentId := .named "fdai.incident://resource:vm-1"
                   assigneeOid := some " alice ", actorOid := "heimdall" }⟩, fun _ => {})]

/-- The condition is met, and the rows of the session are the three that were written. -/
theorem faithful_session_replays :
    (registryMachine.session {} faithfulSession).store.rows.length = 3 ∧
      rehydrateIncidents (registryMachine.session {} faithfulSession).store.rows =
        .ok ((registryMachine.session {} faithfulSession).index 0) :=
  ⟨by decide +kernel, registry_equals_replay 0 faithfulSession
    ⟨by decide +kernel, by decide +kernel, by decide +kernel, trivial⟩⟩

/-- A member that one request names twice is twice in the index, and once in the replay. -/
theorem repeated_member_differs : ¬ ∀ (registry : ℕ) (calls : RegistrySession),
      (∀ call ∈ calls, call.1.registry = registry) →
      registryMachine.SessionReturns {} calls →
      rehydrateIncidents (registryMachine.session {} calls).store.rows =
        .ok ((registryMachine.session {} calls).index registry) := by
  intro always
  have same := always 0 [reportVm [.given 1] none, reportVm [.given 2, .given 2] none]
    (by simp [reportVm]) ⟨by decide +kernel, by decide +kernel, trivial⟩
  revert same
  decide +kernel

end Fdai.Core
