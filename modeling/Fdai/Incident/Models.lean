import Mathlib.Data.List.Dedup
import Mathlib.Data.List.Sort
import Mathlib.Data.String.Basic
import Fdai.Providers.Checks
import Fdai.Providers.Text
import Fdai.Sequences.Keyed

/-!
# Incidents

The incident record, its states and severities, and the id that a set of correlation keys
has.

* `Incident` — the record. It has a correlation key and a member, so a record without
  either cannot be built; `Incident.create` is the validating constructor.
* `IncidentStateMachine.validate` — the legal transitions.
* `canonicalIncidentCorrelationKeys` — the keys as they are hashed; `CanonicalKeys` — what
  they are.
-/

namespace Fdai.Core

open Fdai.Sequences

/-- A UUID: one that a caller supplies, or the UUID5 of a name. The latter is kept as the
name, so a collision of the hash function is outside the model. -/
inductive Uuid where
  | given (value : ℕ)
  | named (name : String)
  deriving DecidableEq

/-- An aware `datetime`: the instant, and the offset of the time zone it was read in.
`isoformat` prints both and `fromisoformat` reads both. -/
structure Moment where
  instant : ℤ
  offset : ℤ := 0
  deriving DecidableEq

/-- A `datetime` that a caller passes. -/
inductive Stamp where
  | aware (moment : Moment)
  | naive

/-! ## States and severities -/

/-- Lifecycle states. -/
inductive IncidentState where
  | opened | triaging | mitigated | resolved | closed
  deriving DecidableEq

def IncidentState.value : IncidentState → String
  | .opened => "open"
  | .triaging => "triaging"
  | .mitigated => "mitigated"
  | .resolved => "resolved"
  | .closed => "closed"

/-- Severity levels, the most severe first. -/
inductive IncidentSeverity where
  | sev1 | sev2 | sev3 | sev4 | sev5
  deriving DecidableEq

/-- `_SEVERITY_RANK`. -/
def IncidentSeverity.rank : IncidentSeverity → ℕ
  | .sev1 => 1
  | .sev2 => 2
  | .sev3 => 3
  | .sev4 => 4
  | .sev5 => 5

def legalTransitions : IncidentState → List IncidentState
  | .opened => [.triaging, .mitigated]
  | .triaging => [.mitigated, .resolved]
  | .mitigated => [.resolved]
  | .resolved => [.closed, .triaging]
  | .closed => []

/-- `repr` of a text without quotes in it. -/
def quoted (text : String) : String := "'" ++ text ++ "'"

/-- The states a state can be left for, as the error lists them. -/
def allowedText (allowed : List IncidentState) : String :=
  let values := (allowed.map (·.value)).insertionSort (· ≤ ·)
  let shown := if values = [] then ["<terminal>"] else values
  "[" ++ String.intercalate ", " (shown.map quoted) ++ "]"

def IncidentStateMachine.validate (current target : IncidentState) : Except String Unit :=
  let allowed := legalTransitions current
  if target ∈ allowed then .ok ()
  else .error ("illegal transition " ++ quoted current.value ++ " -> " ++
    quoted target.value ++ ": allowed from " ++ quoted current.value ++ " = " ++
    allowedText allowed)

@[simp] theorem IncidentStateMachine.validate_eq_ok {current target : IncidentState} :
    IncidentStateMachine.validate current target = .ok () ↔ target ∈ legalTransitions current := by
  unfold IncidentStateMachine.validate
  by_cases legal : target ∈ legalTransitions current
  · simp [legal]
  · simp [legal]

/-- `IncidentTransition`, with what its constructor checks. -/
structure IncidentTransition where
  incidentId : Uuid
  fromState : IncidentState
  toState : IncidentState
  actorOid : String
  moment : Moment
  reason : Option String
  actor_text : strip actorOid ≠ ""

/-- The constructor of a transition. -/
def IncidentTransition.create (incidentId : Uuid) (fromState toState : IncidentState)
    (actorOid : String) (at_ : Stamp) (reason : Option String) :
    Except String IncidentTransition :=
  match at_ with
  | .aware moment =>
    if actor_text : strip actorOid ≠ "" then
      .ok { incidentId, fromState, toState, actorOid, moment, reason, actor_text }
    else .error "IncidentTransition requires non-empty actor_oid and aware at"
  | .naive => .error "IncidentTransition requires non-empty actor_oid and aware at"

/-- A transition that was made is the one that was asked for. -/
theorem IncidentTransition.of_create {incidentId : Uuid} {fromState toState : IncidentState}
    {actorOid : String} {at_ : Stamp} {reason : Option String} {transition : IncidentTransition}
    (created : create incidentId fromState toState actorOid at_ reason = .ok transition) :
    transition.incidentId = incidentId ∧ transition.fromState = fromState ∧
      transition.toState = toState := by
  unfold create at created
  split at created
  · split at created
    · obtain rfl := Except.ok.inj created
      exact ⟨rfl, rfl, rfl⟩
    · cases created
  · cases created

theorem IncidentTransition.actor_of_create {incidentId : Uuid} {fromState toState : IncidentState}
    {actorOid : String} {at_ : Stamp} {reason : Option String} {transition : IncidentTransition}
    (created : create incidentId fromState toState actorOid at_ reason = .ok transition) :
    strip actorOid ≠ "" := by
  unfold create at created
  split at created
  · split at created
    · rename_i text
      exact text
    · cases created
  · cases created

/-- Sorted, each text once. -/
def sortedSet (texts : List String) : List String := texts.dedup.insertionSort (· ≤ ·)

def canonicalIncidentCorrelationKeys (correlationKeys : List String) :
    Except String (List String) :=
  let canonical := sortedSet ((correlationKeys.map strip).filter (· ≠ ""))
  if canonical.length > 32 ∨ ∃ key ∈ canonical, key.length > 1024 then
    .error "incident correlation keys MUST be bounded"
  else if ∃ key ∈ canonical, '|' ∈ key.toList ∨ '\x00' ∈ key.toList then
    .error "incident correlation key contains a reserved delimiter"
  else .ok canonical

def incidentIdFor (correlationKeys : List String) : Except String Uuid := do
  let canonical ← canonicalIncidentCorrelationKeys correlationKeys
  if canonical = [] then .error "incident_id_for requires at least one correlation key"
  else .ok (.named ("fdai.incident://" ++ String.intercalate "|" canonical))

theorem mem_sortedSet {texts : List String} {text : String} :
    text ∈ sortedSet texts ↔ text ∈ texts := by
  simp [sortedSet]

theorem sortedSet_sortedSet (texts : List String) :
    sortedSet (sortedSet texts) = sortedSet texts := by
  have nodup : (sortedSet texts).Nodup :=
    (List.perm_insertionSort _ _).nodup_iff.2 (List.nodup_dedup texts)
  have sorted : (sortedSet texts).Pairwise (· ≤ ·) := List.pairwise_insertionSort _ _
  change (sortedSet texts).dedup.insertionSort _ = _
  rw [nodup.dedup, sorted.insertionSort_eq]

structure CanonicalKeys (keys : List String) : Prop where
  stripped : ∀ key ∈ keys, strip key = key
  texts : ∀ key ∈ keys, key ≠ ""
  sorted : sortedSet keys = keys

theorem canonicalKeys_of_canonical {correlationKeys keys : List String}
    (canonical : canonicalIncidentCorrelationKeys correlationKeys = .ok keys) :
    CanonicalKeys keys := by
  unfold canonicalIncidentCorrelationKeys at canonical
  extract_lets taken at canonical
  split at canonical
  · cases canonical
  split at canonical
  · cases canonical
  obtain rfl := Except.ok.inj canonical
  have taken_of : ∀ key ∈ taken, (∃ raw ∈ correlationKeys, strip raw = key) ∧ key ≠ "" := by
    intro key isKey
    rw [mem_sortedSet, List.mem_filter, List.mem_map] at isKey
    simpa using isKey
  refine ⟨fun key isKey => ?_, fun key isKey => (taken_of key isKey).2, sortedSet_sortedSet _⟩
  obtain ⟨⟨raw, -, rfl⟩, -⟩ := taken_of key isKey
  exact strip_strip raw

theorem CanonicalKeys.map_strip {keys : List String} (canonical : CanonicalKeys keys) :
    keys.map strip = keys := by
  conv_rhs => rw [← List.map_id keys]
  exact List.map_congr_left canonical.stripped

/-- The keys that an incident is created with. -/
theorem CanonicalKeys.sortedSet_filter {keys : List String} (canonical : CanonicalKeys keys) :
    sortedSet (keys.filter (· ≠ "")) = keys := by
  have all : keys.filter (· ≠ "") = keys :=
    List.filter_eq_self.2 fun key isKey => by simpa using canonical.texts key isKey
  rw [all, canonical.sorted]

/-- `_INCIDENT_NUMBER_PREFIX`. -/
def isNumberPrefix (text : String) : Bool :=
  text.toList.take 4 = "INC-".toList && (text.toList.drop 4).length = 6 &&
    (text.toList.drop 4).all Char.isDigit

/-- `_INCIDENT_NUMBER_PATTERN`. -/
def isIncidentNumber (text : String) : Bool :=
  isNumberPrefix (String.ofList (text.toList.take 10)) &&
    (text.toList.drop 10).take 1 = "-".toList && (text.toList.drop 11).length = 4 &&
    (text.toList.drop 11).all Char.isDigit

/-- The fields of an incident that its lifecycle reads or writes. -/
structure Incident where
  incidentId : Uuid
  incidentNumber : Option String := none
  state : IncidentState
  severity : IncidentSeverity
  openedAt : Moment
  mitigatedAt : Option Moment := none
  resolvedAt : Option Moment := none
  closedAt : Option Moment := none
  correlationKeys : List String
  memberEventIds : List Uuid
  assigneeOid : Option String := none
  mitigationSummary : Option String := none
  keys_nonempty : correlationKeys ≠ []
  members_nonempty : memberEventIds ≠ []
  deriving DecidableEq

/-- The validating constructor. It strips every text. -/
def Incident.create (incidentId : Uuid) (incidentNumber : Option String)
    (state : IncidentState) (severity : IncidentSeverity) (openedAt : Moment)
    (correlationKeys : List String) (memberEventIds : List Uuid)
    (assigneeOid : Option String) : Except String Incident :=
  let number := incidentNumber.map strip
  let keys := correlationKeys.map strip
  if number.all isIncidentNumber then
    if keys_nonempty : keys ≠ [] then
      if members_nonempty : memberEventIds ≠ [] then
        .ok { incidentId, incidentNumber := number, state, severity, openedAt,
              correlationKeys := keys, memberEventIds, assigneeOid := assigneeOid.map strip,
              keys_nonempty, members_nonempty }
      else .error "member_event_ids must have at least 1 item"
    else .error "correlation_keys must have at least 1 item"
  else .error "incident_number does not match its pattern"

/-- An incident index. -/
abbrev Incidents := Keyed Incident.incidentId

/-- `tuple(dict.fromkeys(...))`: each member once, where it came first. -/
def distinctMembers : List Uuid → List Uuid
  | [] => []
  | member :: rest => member :: (distinctMembers rest).filter (· ≠ member)

def applyIncidentTransition (incident : Incident) (transition : IncidentTransition)
    (severity : IncidentSeverity) : Incident :=
  { incident with
    state := transition.toState
    severity
    mitigatedAt :=
      if transition.toState = .mitigated then some transition.moment else incident.mitigatedAt
    resolvedAt :=
      if transition.toState = .resolved then some transition.moment else incident.resolvedAt
    closedAt :=
      if transition.toState = .closed then some transition.moment else incident.closedAt
    mitigationSummary :=
      if transition.toState = .mitigated ∧ ∃ reason ∈ transition.reason, reason ≠ "" then
        transition.reason
      else incident.mitigationSummary }

end Fdai.Core
