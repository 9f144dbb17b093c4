import Fdai.Incident.Store

/-!
# The rows and the incidents they make

The store reads the current state of an incident off its rows; the replay computes it as a
record. `Agrees` says that the two see the same.

* `Row.Written` — what every row a registry writes is.
* `accepted_replays` — a row the store accepts replays, if the severity that a transition
  starts from is the current one; the two views agree afterwards.
* `stale_fails` — a transition from another severity does not replay.
-/

namespace Fdai.Core

open Fdai.Sequences

section

variable {rows : List Row} {row : Row} {incidentId : Uuid} {opened : OpenEntry}

theorem incidentHistory_append : incidentHistory (rows ++ [row]) incidentId =
      incidentHistory rows incidentId ++ if row.incidentId = incidentId then [row] else [] := by
  simp [incidentHistory, List.filter_append, List.filter_cons]

theorem incidentHistory_append_ne (apart : row.incidentId ≠ incidentId) :
    incidentHistory (rows ++ [row]) incidentId = incidentHistory rows incidentId := by
  simp [incidentHistory_append, apart]

theorem incidentHistory_append_self :
    incidentHistory (rows ++ [row]) row.incidentId = incidentHistory rows row.incidentId ++ [row] := by
  simp [incidentHistory_append]

theorem openedRow_incidentId (found : openedRow rows incidentId = some opened) :
    opened.incidentId = incidentId := by
  obtain ⟨row, isRow, isOpened⟩ := List.exists_of_findSome?_eq_some found
  obtain ⟨-, same⟩ := by simpa [incidentHistory] using isRow
  cases row with
  | opened entry =>
    obtain rfl := Option.some.inj isOpened
    exact same
  | members | severity | assigned | ticket | transition => cases isOpened

theorem openedRow_append (found : openedRow rows incidentId = some opened) :
    openedRow (rows ++ [row]) incidentId = some opened := by
  rw [openedRow, incidentHistory_append, List.findSome?_append]
  rw [openedRow] at found
  rw [found]
  rfl

end

/-- An opening row that a registry writes. -/
structure OpenEntry.Written (entry : OpenEntry) : Prop where
  texts : "" ∉ entry.correlationKeys
  id : incidentIdFor entry.correlationKeys = .ok entry.incidentId
  members : entry.memberEventIds ≠ []
  assignee : entry.assigneeOid.map strip = entry.assigneeOid

/-- A transition row that a registry writes. -/
structure TransitionEntry.Written (entry : TransitionEntry) : Prop where
  legal : entry.toState ∈ legalTransitions entry.fromState
  actor : strip entry.actorOid ≠ ""
  severity : entry.severity = entry.fromSeverity ∨
    entry.fromState = .resolved ∧ entry.toState = .triaging

/-- A row that a registry writes. -/
def Row.Written : Row → Prop
  | .opened entry => entry.Written
  | .members entry => entry.memberEventIds ≠ []
  | .transition entry => entry.Written
  | _ => True

/-! ## Agreement -/

/-- The record of an incident says what its rows say. -/
structure Matches (rows : List Row) (incident : Incident) (opened : OpenEntry) : Prop where
  state : incident.state = currentState rows opened
  severity : incident.severity = currentSeverity rows opened
  assignee : incident.assigneeOid = optionalString (currentAssignee rows opened)

/-- An index says what the rows say. -/
structure Agrees (rows : List Row) (restored : Incidents) : Prop where
  absent : ∀ incidentId, restored.get incidentId = none → incidentHistory rows incidentId = []
  present : ∀ incidentId incident, restored.get incidentId = some incident →
    ∃ opened, openedRow rows incidentId = some opened ∧ Matches rows incident opened

theorem agrees_empty : Agrees [] Keyed.empty :=
  ⟨fun _ _ => rfl, fun _ _ found => by cases found⟩

section

variable {rows : List Row} {row : Row} {restored : Incidents} {incident : Incident}
  {opened : OpenEntry}

theorem Matches.append_ne (holds : Matches rows incident opened)
    (apart : row.incidentId ≠ opened.incidentId) : Matches (rows ++ [row]) incident opened := by
  obtain ⟨state, severity, assignee⟩ := holds
  refine ⟨?_, ?_, ?_⟩
  · rwa [currentState, incidentHistory_append_ne apart]
  · rwa [currentSeverity, incidentHistory_append_ne apart]
  · rwa [currentAssignee, incidentHistory_append_ne apart]

/-- **One more row** leaves the other incidents as they are. -/
theorem Agrees.step {restored' : Incidents} (agrees : Agrees rows restored)
    (others : ∀ incidentId ≠ row.incidentId, restored'.get incidentId = restored.get incidentId)
    (here : restored'.get row.incidentId = some incident)
    (found : openedRow (rows ++ [row]) row.incidentId = some opened)
    (holds : Matches (rows ++ [row]) incident opened) : Agrees (rows ++ [row]) restored' := by
  constructor
  · intro incidentId missing
    by_cases same : incidentId = row.incidentId
    · rw [same, here] at missing
      cases missing
    rw [others incidentId same] at missing
    rw [incidentHistory_append_ne (Ne.symm same)]
    exact agrees.absent incidentId missing
  · intro incidentId incident' got
    by_cases same : incidentId = row.incidentId
    · subst same
      obtain rfl := Option.some.inj (here.symm.trans got)
      exact ⟨opened, found, holds⟩
    rw [others incidentId same] at got
    obtain ⟨opened', found', holds'⟩ := agrees.present incidentId incident' got
    refine ⟨opened', openedRow_append found', holds'.append_ne ?_⟩
    rw [openedRow_incidentId found']
    exact Ne.symm same

theorem Agrees.put (agrees : Agrees rows restored)
    (found : openedRow (rows ++ [row]) row.incidentId = some opened)
    (same : incident.incidentId = row.incidentId)
    (holds : Matches (rows ++ [row]) incident opened) :
    Agrees (rows ++ [row]) (restored.put incident) := by
  refine agrees.step (fun incidentId apart => ?_) ?_ found holds
  · rw [Keyed.get_put, same, if_neg apart]
  · rw [Keyed.get_put, same, if_pos rfl]

theorem Agrees.history_opened {entry : OpenEntry} (agrees : Agrees rows restored)
    (fresh : restored.get entry.incidentId = none) :
    incidentHistory (rows ++ [.opened entry]) entry.incidentId = [.opened entry] := by
  have more : incidentHistory (rows ++ [.opened entry]) (Row.opened entry).incidentId =
      incidentHistory rows (Row.opened entry).incidentId ++ [.opened entry] :=
    incidentHistory_append_self
  rwa [Row.incidentId, agrees.absent _ fresh, List.nil_append] at more

theorem Agrees.opening {entry : OpenEntry} (agrees : Agrees rows restored)
    (fresh : restored.get entry.incidentId = none)
    (same : incident.incidentId = entry.incidentId) (state : incident.state = entry.state)
    (severity : incident.severity = entry.severity)
    (assignee : incident.assigneeOid = optionalString entry.assigneeOid) :
    Agrees (rows ++ [.opened entry]) (restored.put incident) := by
  have history := agrees.history_opened fresh
  have found : openedRow (rows ++ [.opened entry]) (Row.opened entry).incidentId = some entry := by
    rw [Row.incidentId, openedRow, history]
    rfl
  refine agrees.put found same ⟨?_, ?_, ?_⟩
  · rw [currentState, history, state]
    rfl
  · rw [currentSeverity, history, severity]
    rfl
  · rw [currentAssignee, history, assignee]
    rfl

theorem Agrees.current {incidentId : Uuid} (agrees : Agrees rows restored)
    (found : openedRow rows incidentId = some opened) :
    ∃ incident, restored.get incidentId = some incident ∧ incident.incidentId = incidentId ∧
      opened.incidentId = incidentId ∧ Matches rows incident opened := by
  cases got : restored.get incidentId with
  | none =>
    rw [openedRow, agrees.absent _ got] at found
    cases found
  | some incident =>
    obtain ⟨opened', found', holds⟩ := agrees.present _ _ got
    obtain rfl := Option.some.inj (found.symm.trans found')
    exact ⟨incident, rfl, Keyed.key_of_get got, openedRow_incidentId found, holds⟩

end

section

variable {rows : List Row} {row : Row} {opened : OpenEntry}

theorem currentState_append (same : opened.incidentId = row.incidentId) :
    currentState (rows ++ [row]) opened = rowState (currentState rows opened) row := by
  rw [currentState, currentState, same, incidentHistory_append_self, List.foldl_append]
  rfl

theorem currentSeverity_append (same : opened.incidentId = row.incidentId) :
    currentSeverity (rows ++ [row]) opened = rowSeverity (currentSeverity rows opened) row := by
  rw [currentSeverity, currentSeverity, same, incidentHistory_append_self, List.foldl_append]
  rfl

theorem currentAssignee_append (same : opened.incidentId = row.incidentId) :
    currentAssignee (rows ++ [row]) opened = rowAssignee (currentAssignee rows opened) row := by
  rw [currentAssignee, currentAssignee, same, incidentHistory_append_self, List.foldl_append]
  rfl

end

/-! ## A row that is accepted replays -/

section

variable {rows : List Row} {restored : Incidents} {opened : OpenEntry}

/-- The row replays, and the index says what the rows say. -/
def Replays (rows : List Row) (restored : Incidents) (row : Row) : Prop :=
  ∃ restored', replayRow restored row = .ok restored' ∧ Agrees (rows ++ [row]) restored'

theorem requireExistingIncident_eq_ok {incidentId : Uuid} {incident : Incident} {kind : String}
    (got : restored.get incidentId = some incident) :
    requireExistingIncident restored incidentId kind = .ok incident := by
  rw [requireExistingIncident, got]

theorem members_replays {entry : MembersEntry} (agrees : Agrees rows restored)
    (found : openedRow rows entry.incidentId = some opened)
    (members : entry.memberEventIds ≠ []) : Replays rows restored (.members entry) := by
  obtain ⟨current, got, ofId, openedId, holds⟩ := agrees.current found
  refine ⟨restored.put (current.withMembers entry.memberEventIds), ?_,
    agrees.put (openedRow_append found) ofId ⟨?_, ?_, ?_⟩⟩
  · simp only [replayRow, replayMembers, requireExistingIncident_eq_ok got, requiredIdList,
      if_neg members]
    rfl
  · rw [currentState_append openedId]
    exact holds.state
  · rw [currentSeverity_append openedId]
    exact holds.severity
  · rw [currentAssignee_append openedId]
    exact holds.assignee

theorem ticket_replays {entry : TicketEntry} (agrees : Agrees rows restored)
    (found : openedRow rows entry.incidentId = some opened) :
    Replays rows restored (.ticket entry) := by
  obtain ⟨current, got, -, openedId, holds⟩ := agrees.current found
  refine ⟨restored, ?_, agrees.step (fun _ _ => rfl) got (openedRow_append found) ⟨?_, ?_, ?_⟩⟩
  · simp only [replayRow, requireExistingIncident_eq_ok got]
    rfl
  · rw [currentState_append openedId]
    exact holds.state
  · rw [currentSeverity_append openedId]
    exact holds.severity
  · rw [currentAssignee_append openedId]
    exact holds.assignee

theorem severity_replays {entry : SeverityEntry} (agrees : Agrees rows restored)
    (found : openedRow rows entry.incidentId = some opened)
    (accepted : classifyOpened rows opened (.severity entry) = .ok .applied) :
    Replays rows restored (.severity entry) := by
  obtain ⟨current, got, ofId, openedId, holds⟩ := agrees.current found
  simp only [classifyOpened, ← holds.severity] at accepted
  split at accepted
  · cases accepted
  split at accepted
  · cases accepted
  rename_i fromCurrent
  split at accepted
  · cases accepted
  rename_i moreSevere
  refine ⟨restored.put { current with severity := entry.severity }, ?_,
    agrees.put (openedRow_append found) ofId ⟨?_, ?_, ?_⟩⟩
  · simp only [replayRow, replaySeverity, requireExistingIncident_eq_ok got]
    change (if _ then _ else _) = _
    rw [if_neg fromCurrent, if_neg moreSevere]
    rfl
  · rw [currentState_append openedId]
    exact holds.state
  · rw [currentSeverity_append openedId]
    rfl
  · rw [currentAssignee_append openedId]
    exact holds.assignee

theorem assigned_replays {entry : AssignedEntry} (agrees : Agrees rows restored)
    (found : openedRow rows entry.incidentId = some opened)
    (accepted : classifyOpened rows opened (.assigned entry) = .ok .applied) :
    Replays rows restored (.assigned entry) := by
  obtain ⟨current, got, ofId, openedId, holds⟩ := agrees.current found
  simp only [classifyOpened] at accepted
  split at accepted
  · cases accepted
  split at accepted
  · cases accepted
  rename_i fromCurrent
  have from_ : current.assigneeOid = optionalString entry.fromAssigneeOid := by
    rw [holds.assignee, not_not.1 fromCurrent]
  have after (incident : Incident) (state : incident.state = current.state)
      (severity : incident.severity = current.severity)
      (assignee : incident.assigneeOid = optionalString entry.assigneeOid) :
      Matches (rows ++ [.assigned entry]) incident opened := by
    refine ⟨?_, ?_, ?_⟩
    · rw [currentState_append openedId, state]
      exact holds.state
    · rw [currentSeverity_append openedId, severity]
      exact holds.severity
    · rw [currentAssignee_append openedId, assignee]
      rfl
  by_cases already : current.assigneeOid = optionalString entry.assigneeOid
  · refine ⟨restored, ?_, agrees.step (fun _ _ => rfl) got (openedRow_append found)
      (after current rfl rfl already)⟩
    simp only [replayRow, replayAssignment, requireExistingIncident_eq_ok got]
    change (if _ then _ else _) = _
    rw [if_pos already]
    rfl
  · refine ⟨restored.put { current with assigneeOid := optionalString entry.assigneeOid }, ?_,
      agrees.put (openedRow_append found) ofId (after _ rfl rfl rfl)⟩
    simp only [replayRow, replayAssignment, requireExistingIncident_eq_ok got]
    change (if _ then _ else _) = _
    rw [if_neg already, if_neg (not_not.2 from_)]
    rfl

/-- The constructor of a transition, of a row that a registry wrote. -/
theorem TransitionEntry.Written.create {entry : TransitionEntry} (written : entry.Written) :
    ∃ transition : IncidentTransition, transition.toState = entry.toState ∧
      IncidentTransition.create entry.incidentId entry.fromState entry.toState entry.actorOid
        (.aware entry.moment) (optionalString entry.reason) = .ok transition := by
  refine ⟨⟨entry.incidentId, entry.fromState, entry.toState, entry.actorOid, entry.moment,
    optionalString entry.reason, written.actor⟩, rfl, ?_⟩
  rw [IncidentTransition.create, dif_pos written.actor]

theorem transition_replays {entry : TransitionEntry} (agrees : Agrees rows restored)
    (found : openedRow rows entry.incidentId = some opened)
    (accepted : classifyOpened rows opened (.transition entry) = .ok .applied)
    (written : entry.Written) (fromCurrent : currentSeverity rows opened = entry.fromSeverity) :
    Replays rows restored (.transition entry) := by
  obtain ⟨current, got, ofId, openedId, holds⟩ := agrees.current found
  simp only [classifyOpened, ← holds.state] at accepted
  split at accepted
  · cases accepted
  split at accepted
  · cases accepted
  rename_i fromState
  have sameState : current.state = entry.fromState := not_not.1 fromState
  have sameSeverity : current.severity = entry.fromSeverity := holds.severity.trans fromCurrent
  have actor : entry.actorOid ≠ "" := fun empty => written.actor (by rw [empty, strip_empty])
  obtain ⟨transition, toState, created⟩ := written.create
  refine ⟨restored.put (applyIncidentTransition current transition entry.severity), ?_,
    agrees.put (openedRow_append found) ofId ⟨?_, ?_, ?_⟩⟩
  · have reopens : ¬ (entry.severity ≠ current.severity ∧
        ¬ (current.state = .resolved ∧ transition.toState = .triaging)) := by
      rw [sameSeverity, sameState, toState]
      rintro ⟨changed, notReopen⟩
      exact written.severity.elim changed notReopen
    simp only [replayRow, replayTransition, requireExistingIncident_eq_ok got]
    change (if _ then _ else _) = _
    rw [if_neg fromState, requiredString, if_neg actor]
    change (orInvalid (IncidentTransition.create _ _ _ _ _ _) >>= _) = _
    rw [created]
    change (orInvalid (IncidentStateMachine.validate _ _) >>= _) = _
    rw [IncidentStateMachine.validate_eq_ok.2 (by rw [sameState, toState]; exact written.legal)]
    change (if _ then _ else _) = _
    rw [if_neg (not_not.2 sameSeverity), if_neg reopens]
    rfl
  · rw [currentState_append openedId]
    exact toState
  · rw [currentSeverity_append openedId]
    rfl
  · rw [currentAssignee_append openedId]
    exact holds.assignee

/-- A number that an opening row can carry. -/
structure IncidentNumber (number : String) : Prop where
  pattern : isIncidentNumber number = true
  stripped : strip number = number

/-- An assignee that is stripped already is read as it is, or as none. -/
theorem map_strip_optionalString {assignee : Option String}
    (stripped : assignee.map strip = assignee) :
    (optionalString assignee).map strip = optionalString assignee := by
  rcases given : assignee with _ | text
  · rfl
  rw [given] at stripped
  have same : strip text = text := Option.some.inj stripped
  by_cases empty : text = ""
  · rw [empty]
    rfl
  · rw [optionalString_text empty, Option.map_some, same]

/-- **The incident of an opening row** that a registry wrote. -/
theorem incidentFromOpenEntry_eq_ok {entry : OpenEntry} {number : String}
    (written : entry.Written) (numbered : entry.incidentNumber = some number)
    (valid : IncidentNumber number) :
    ∃ keys_nonempty : entry.correlationKeys.map strip ≠ [], incidentFromOpenEntry entry = .ok
        { incidentId := entry.incidentId
          incidentNumber := some number
          state := entry.state
          severity := entry.severity
          openedAt := entry.openedAt
          correlationKeys := entry.correlationKeys.map strip
          memberEventIds := entry.memberEventIds
          assigneeOid := optionalString entry.assigneeOid
          keys_nonempty
          members_nonempty := written.members } := by
  have keys : entry.correlationKeys ≠ [] := by
    intro empty
    have id := written.id
    rw [empty] at id
    cases id
  have keys' : entry.correlationKeys.map strip ≠ [] := by simpa using keys
  have number_text : number ≠ "" := by
    rintro rfl
    cases valid.pattern
  have isNumber : (optionalString entry.incidentNumber).map strip = some number := by
    rw [numbered, optionalString_text number_text, Option.map_some, valid.stripped]
  refine ⟨keys', ?_⟩
  rw [incidentFromOpenEntry, requiredStringList, if_neg (by simp [keys, written.texts])]
  change (orInvalid (incidentIdFor entry.correlationKeys) >>= _) = _
  rw [written.id]
  change (if _ then _ else _) = _
  rw [if_neg (not_not.2 rfl), requiredIdList, if_neg written.members]
  change orInvalid _ = _
  simp only [Incident.create, isNumber, Option.all_some, valid.pattern, ↓reduceIte, dif_pos keys',
    dif_pos written.members, map_strip_optionalString written.assignee]
  rfl

/-- An opening row, replayed into an index without the incident. -/
theorem replayOpen_fresh {entry : OpenEntry} {incident : Incident}
    (parsed : incidentFromOpenEntry entry = .ok incident)
    (absent : restored.get incident.incidentId = none) :
    replayRow restored (.opened entry) = .ok (restored.put incident) := by
  simp only [replayRow, replayOpen, parsed]
  dsimp only [bind, Except.bind]
  rw [absent]
  rfl

theorem opening_replays {entry : OpenEntry} {number : String} (agrees : Agrees rows restored)
    (fresh : openedRow rows entry.incidentId = none) (written : entry.Written)
    (numbered : entry.incidentNumber = some number) (valid : IncidentNumber number) :
    Replays rows restored (.opened entry) := by
  have absent : restored.get entry.incidentId = none := by
    rcases got : restored.get entry.incidentId with _ | incident
    · rfl
    obtain ⟨opened, found, -⟩ := agrees.present _ _ got
    rw [fresh] at found
    cases found
  obtain ⟨keys_nonempty, parsed⟩ := incidentFromOpenEntry_eq_ok written numbered valid
  exact ⟨_, replayOpen_fresh parsed absent, agrees.opening absent rfl rfl rfl rfl⟩

end

theorem digit_isDigit (n : ℕ) : (digit n).isDigit = true := by
  have digits : ∀ k < 10, (Char.ofNat (48 + k)).isDigit = true := by decide
  exact digits _ (Nat.mod_lt n (by omega))

theorem digit_not_isSpace (n : ℕ) : isSpace (digit n) = false := by
  have digits : ∀ k < 10, isSpace (Char.ofNat (48 + k)) = false := by decide
  exact digits _ (Nat.mod_lt n (by omega))

/-- **A number that was given** is one that an opening row can carry. -/
theorem incidentNumber_of_incidentNumberFor {numberPrefix number : String} {sequence : ℕ}
    (given : incidentNumberFor numberPrefix sequence = .ok number) : IncidentNumber number := by
  unfold incidentNumberFor at given
  extract_lets digits parse year month at given
  split at given
  · cases given
  rename_i isPrefix
  split at given
  · cases given
  split at given
  · cases given
  obtain rfl := Except.ok.inj given
  have shape : isNumberPrefix numberPrefix = true := by simpa using isPrefix
  have parts := shape
  simp only [isNumberPrefix, Bool.and_eq_true, decide_eq_true_eq] at parts
  obtain ⟨⟨starts, length⟩, -⟩ := parts
  have split : numberPrefix.toList = "INC-".toList ++ numberPrefix.toList.drop 4 := by
    rw [← starts, List.take_append_drop]
  have prefixLength : numberPrefix.toList.length = 10 := by
    rw [split, List.length_append, length]
    rfl
  generalize tail : ['-', digit (sequence / 1000), digit (sequence / 100), digit (sequence / 10),
    digit sequence] = number
  constructor
  · have take : (numberPrefix.toList ++ number).take 10 = numberPrefix.toList :=
      List.take_left' prefixLength
    have drop : (numberPrefix.toList ++ number).drop 10 = number := List.drop_left' prefixLength
    have drop' : (numberPrefix.toList ++ number).drop 11 = number.drop 1 := by
      rw [← drop, List.drop_drop, drop]
    rw [isIncidentNumber, String.toList_ofList, take, drop, drop', String.ofList_toList, shape,
      ← tail]
    simp [digit_isDigit]
  · have ends : numberPrefix.toList ++ number = 'I' :: (("NC-".toList ++ numberPrefix.toList.drop 4 ++
        ['-', digit (sequence / 1000), digit (sequence / 100), digit (sequence / 10)]) ++
          [digit sequence]) := by
      rw [← tail]
      conv_lhs => rw [split]
      simp
    rw [ends]
    exact strip_ofList (by decide) (digit_not_isSpace sequence)

end Fdai.Core
