import Fdai.Documents.SchemaChecks
import Fdai.Providers.Calendar
import Fdai.Providers.Contracts

/-!
# Standing authorization records

A standing authorization is parsed from a document that the shipped schema accepts.

* `Host` — what the language decides: decimal digits, the timestamps that are read, and the
  digest of a canonical text.
* `AuthorizationFields`, `StandingAuthorization` — a record, and one that its constructor accepts.
* `standingAuthorizationSchema` — the shipped schema, keyword by keyword.
* `fromMapping` — the record of a document.

Instants are in UTC. The text in which the schema library reports its findings is left out.
-/

namespace Fdai.Core.StandingRecords

open Fdai.Documents Fdai.Documents.Check
open Fdai.JsonSchema (JsonType)

/-- What the language decides. -/
structure Host where
  /-- `\d` of a regular expression. -/
  isDecimal : Char → Bool
  /-- `datetime.fromisoformat`. -/
  fromisoformat : String → Option Datetime
  /-- `hashlib.sha256(…).hexdigest()`, of a canonical text. -/
  sha256 : Json → String

/-- What is documented of it. -/
structure Host.Lawful (host : Host) : Prop where
  /-- A decimal digit is no white space. -/
  decimal : ∀ c, host.isDecimal c = true → isSpace c = false
  /-- A timestamp of `isoformat` is read back. -/
  readsBack : ∀ instant, InDatetimeRange instant →
    host.fromisoformat (isoformat instant) = some (.aware instant)
  hexdigest : ∀ value, isHex 64 (host.sha256 value).toList = true

/-- An exception. -/
inductive RecordError where
  /-- The schema does not accept the document. -/
  | schema
  | standing (message : String)
  | value (message : String)
  | lifecycle (message : String)
  | overflow

inductive AuthorizationStatus where
  | active | revoked | expired | superseded

def AuthorizationStatus.value : AuthorizationStatus → String
  | .active => "active"
  | .revoked => "revoked"
  | .expired => "expired"
  | .superseded => "superseded"

inductive AuthorizationMode where
  | shadow

def AuthorizationMode.value : AuthorizationMode → String
  | .shadow => "shadow"

inductive ApprovalProfile where
  | multiOperator | singleOperatorProduction

def ApprovalProfile.value : ApprovalProfile → String
  | .multiOperator => "multi-operator"
  | .singleOperatorProduction => "single-operator-production"

inductive ApproverRole where
  | serviceOwner | owner | approver

def ApproverRole.value : ApproverRole → String
  | .serviceOwner => "service_owner"
  | .owner => "owner"
  | .approver => "approver"

inductive ScopeLevel where
  | resource | resourceGroup

def ScopeLevel.value : ScopeLevel → String
  | .resource => "resource"
  | .resourceGroup => "resource_group"

structure Approval where
  principal : String
  roles : List ApproverRole
  approvedAt : ℤ

@[ext]
structure AuthorizationScope where
  level : ScopeLevel
  value : String

@[ext]
structure AuthorizationPins where
  policyDigest : String
  targetRevision : String
  actionTypeVersions : List String
  evidenceRevisions : List String

@[ext]
structure AuthorizationEnvelope where
  actionTypes : List String
  maxBlastRadius : ℤ
  maxDurationSeconds : ℤ
  reversible : Bool
  rollbackContract : String
  stopConditions : List String

@[ext]
structure Responders where
  primary : String
  backup : String
  confirmedAt : ℤ

structure AuthorizationEvidence where
  historyReviewed : Bool
  precedentRef : Option String
  scenarioEvidenceRef : Option String

/-- The fields of a `StandingAuthorization`. -/
@[ext]
structure AuthorizationFields where
  schemaVersion : String
  id : String
  authorizationRevision : String
  approvalProfile : ApprovalProfile
  operatorPrincipal : Option String
  status : AuthorizationStatus
  mode : AuthorizationMode
  requestedBy : String
  approvals : List Approval
  quorumRequired : ℤ
  validFrom : ℤ
  validUntil : ℤ
  serviceRef : String
  scope : AuthorizationScope
  pins : AuthorizationPins
  envelope : AuthorizationEnvelope
  incidentClasses : List String
  responders : Responders
  evidence : AuthorizationEvidence

/-- `StandingAuthorization.__post_init__`. -/
def AuthorizationFields.check (fields : AuthorizationFields) : Except RecordError Unit := do
  validate [(fields.validFrom < fields.validUntil, .standing "valid_from MUST precede valid_until")]
  match fields.approvalProfile with
  | .singleOperatorProduction =>
    validate [(fields.operatorPrincipal.isSome,
        .standing "operator_principal is required for single-operator production"),
       (fields.quorumRequired = 1,
        .standing "single-operator production quorum_required MUST be 1")]
  | .multiOperator =>
    validate [(fields.operatorPrincipal = none,
        .standing "operator_principal is only valid for single-operator production"),
       (∀ approval ∈ fields.approvals, approval.roles.length = 1,
        .standing "multi-operator approvals MUST each carry exactly one role"),
       (2 ≤ fields.quorumRequired, .standing "quorum_required MUST be at least 2")]

abbrev StandingAuthorization := Valid AuthorizationFields.check

/-! ## The schema -/

/-- `re.search` of a pattern between `^` and `$`, which also matches before a newline at the
end. -/
def anchored (core : List Char → Bool) (text : String) : Bool :=
  core text.toList || (text.toList.getLast? = some '\n' && core text.toList.dropLast)

/-- `[a-z0-9]`. -/
def isLowerAlphanumeric (c : Char) : Bool := ('a' ≤ c && c ≤ 'z') || ('0' ≤ c && c ≤ '9')

/-- `[a-z0-9._-]`. -/
def isNameChar (c : Char) : Bool := isLowerAlphanumeric c || c = '.' || c = '_' || c = '-'

/-- `[a-z0-9][a-z0-9._-]*`. -/
def isName : List Char → Bool
  | [] => false
  | first :: rest => isLowerAlphanumeric first && rest.all isNameChar

/-- `[a-z0-9][a-z0-9._-]{1,127}`. -/
def isAuthorizationId (chars : List Char) : Bool :=
  isName chars && 2 ≤ chars.length && chars.length ≤ 128

section

variable (host : Host)

/-- `\d+\.\d+\.\d+`. -/
def isVersion (chars : List Char) : Bool :=
  match chars.splitOn '.' with
  | [major, minor, patch] => [major, minor, patch].all fun digits =>
      !digits.isEmpty && digits.all host.isDecimal
  | _ => false

/-- `[a-z0-9][a-z0-9._-]*@\d+\.\d+\.\d+`. -/
def isActionVersion (chars : List Char) : Bool :=
  match chars.splitOn '@' with
  | [name, version] => isName name && isVersion host version
  | _ => false

/-- `{"type": "array", "items": …}` of texts that are not empty. -/
def textItems : List Check := [ofType .array, Check.items nonEmptyText]

/-- `"enum"` of a text. -/
def textEnum (values : List String) : Check := allOf [ofType .string, enum values]

def roleValues : List String := ["service_owner", "owner", "approver"]

/-- The items of `"approvals"`. -/
def approvalSchema : Check := allOf [ closedObject ["principal", "approved_at"] [
    ("principal", nonEmptyText),
    ("role", textEnum roleValues),
    ("roles", allOf [ofType .array, minItems 1, uniqueItems, Check.items (textEnum roleValues)]),
    ("approved_at", ofType .string)],
  oneOf [ allOf [required ["role"], refuses (required ["roles"])],
    allOf [required ["roles"], refuses (required ["role"])]]]

def scopeSchema : Check := closedObject ["level", "value"] [
  ("level", textEnum ["resource", "resource_group"]),
  ("value", nonEmptyText)]

def pinsSchema : Check := closedObject
  ["policy_digest", "target_revision", "action_type_versions", "evidence_revisions"] [
    ("policy_digest", nonEmptyText),
    ("target_revision", nonEmptyText),
    ("action_type_versions", allOf [ofType .array, minItems 1,
      Check.items (allOf [ofType .string, pattern (anchored (isActionVersion host))])]),
    ("evidence_revisions", allOf textItems)]

def rollbackValues : List String :=
  ["pr_revert", "scripted", "pitr", "snapshot_restore", "state_forward_only"]

def envelopeSchema : Check := closedObject
  ["action_types", "max_blast_radius", "max_duration_seconds", "reversible", "rollback_contract",
    "stop_conditions"] [
    ("action_types", allOf (minItems 1 :: textItems)),
    ("max_blast_radius", allOf [ofType .integer, minimum 1]),
    ("max_duration_seconds", allOf [ofType .integer, minimum 1]),
    ("reversible", ofType .boolean),
    ("rollback_contract", textEnum rollbackValues),
    ("stop_conditions", allOf (minItems 1 :: textItems))]

def respondersSchema : Check := closedObject ["primary", "backup", "confirmed_at"] [
  ("primary", nonEmptyText),
  ("backup", nonEmptyText),
  ("confirmed_at", ofType .string)]

def evidenceSchema : Check := closedObject ["history_reviewed"] [
  ("history_reviewed", ofType .boolean),
  ("precedent_ref", anyOf [ofType .string, ofType .null]),
  ("scenario_evidence_ref", anyOf [ofType .string, ofType .null])]

/-- The top-level `"required"`. -/
def requiredNames : List String :=
  ["schema_version", "id", "authorization_revision", "status", "mode", "requested_by", "approvals",
    "quorum_required", "valid_from", "valid_until", "service_ref", "scope", "pins", "envelope",
    "incident_classes", "responders", "evidence"]

/-- The top-level `"properties"`. -/
def declaredFields : List (String × Check) := [
  ("schema_version", allOf [ofType .string, pattern (anchored (isVersion host))]),
  ("id", allOf [ofType .string, pattern (anchored isAuthorizationId)]),
  ("authorization_revision", nonEmptyText),
  ("approval_profile", textEnum ["multi-operator", "single-operator-production"]),
  ("operator_principal", nonEmptyText),
  ("status", textEnum ["active", "revoked", "expired", "superseded"]),
  ("mode", textEnum ["shadow"]),
  ("requested_by", nonEmptyText),
  ("approvals", allOf [ofType .array, minItems 1, Check.items approvalSchema]),
  ("quorum_required", allOf [ofType .integer, minimum 1]),
  ("valid_from", ofType .string),
  ("valid_until", ofType .string),
  ("service_ref", nonEmptyText),
  ("scope", scopeSchema),
  ("pins", pinsSchema host),
  ("envelope", envelopeSchema),
  ("incident_classes", allOf (minItems 1 :: textItems)),
  ("responders", respondersSchema),
  ("evidence", evidenceSchema)]

/-- The profile is absent, or names several operators. -/
def severalOperators : Check := anyOf [ refuses (required ["approval_profile"]),
  allOf [required ["approval_profile"],
    properties [("approval_profile", constText "multi-operator")]]]

/-- What the profile asks for: two approvals and a quorum of two, or one operator. -/
def profileRules : List Check := [ ifThen severalOperators (allOf [
    refuses (required ["operator_principal"]),
    properties [ ("approvals", allOf [minItems 2,
        Check.items (allOf [required ["role"], refuses (required ["roles"])])]),
      ("quorum_required", minimum 2)]]),
  ifThen (allOf [required ["approval_profile"],
      properties [("approval_profile", constText "single-operator-production")]])
    (allOf [required ["operator_principal"], properties [("quorum_required", constInt 1)]])]

/-- **The shipped schema**, `authority/standing-authorization.json`. The formats of timestamps
are not asserted. -/
def standingAuthorizationSchema : Check :=
  allOf [closedObject requiredNames (declaredFields host), allOf profileRules]

/-! ## Parsing -/

abbrev Mapping := List (String × Json)

/-- `repr` of a plain text. -/
def quoted (text : String) : String := "'" ++ text ++ "'"

def mapping (value : Mapping) (key : String) : Except RecordError Mapping :=
  match value.lookup key with
  | some (.object child) => .ok child
  | _ => .error (.standing (quoted key ++ " MUST be an object"))

def sequence (value : Mapping) (key : String) : Except RecordError (List Mapping) :=
  match value.lookup key with
  | some (.list items) => items.mapM fun
      | .object fields => .ok fields
      | _ => .error (.standing (quoted key ++ " entries MUST be objects"))
  | _ => .error (.standing (quoted key ++ " MUST be an array"))

def text (value : Mapping) (key : String) : Except RecordError String :=
  match value.lookup key with
  | some (.text raw) =>
    if strip raw = "" then .error (.standing (quoted key ++ " MUST be a non-empty string"))
    else .ok (strip raw)
  | _ => .error (.standing (quoted key ++ " MUST be a non-empty string"))

def optionalText (value : Mapping) (key : String) : Except RecordError (Option String) :=
  match value.lookup key with
  | none | some .null => .ok none
  | some _ => (text value key).map some

/-- The member of an enumeration with this value. -/
def member {α : Type} (kind : String) (members : List α) (valueOf : α → String) (raw : String) :
    Except RecordError α :=
  match members.find? fun candidate => valueOf candidate = raw with
  | some found => .ok found
  | none => .error (.value (quoted raw ++ " is not a valid " ++ kind))

def authorizationStatus : String → Except RecordError AuthorizationStatus :=
  member "AuthorizationStatus" [.active, .revoked, .expired, .superseded] AuthorizationStatus.value

def authorizationMode : String → Except RecordError AuthorizationMode :=
  member "AuthorizationMode" [.shadow] AuthorizationMode.value

def approverRole : String → Except RecordError ApproverRole :=
  member "ApproverRole" [.serviceOwner, .owner, .approver] ApproverRole.value

def scopeLevel : String → Except RecordError ScopeLevel :=
  member "ScopeLevel" [.resource, .resourceGroup] ScopeLevel.value

def approvalProfile (value : Mapping) : Except RecordError ApprovalProfile :=
  match value.lookup "approval_profile" with
  | none | some .null => .ok .multiOperator
  | some _ => do
    let raw ← text value "approval_profile"
    member "ApprovalProfile" [.multiOperator, .singleOperatorProduction] ApprovalProfile.value raw

/-- The items of a list of texts, each stripped. -/
def textEntry (key : String) : Json → Except RecordError String
  | .text raw =>
    if strip raw = "" then
      .error (.standing (quoted key ++ " entries MUST be non-empty strings"))
    else .ok (strip raw)
  | _ => .error (.standing (quoted key ++ " entries MUST be non-empty strings"))

def textTuple (value : Mapping) (key : String) : Except RecordError (List String) :=
  match value.lookup key with
  | some (.list items) => items.mapM (textEntry key)
  | _ => .error (.standing (quoted key ++ " MUST be an array of strings"))

def approvalRoles (value : Mapping) : Except RecordError (List ApproverRole) :=
  match value.lookup "roles" with
  | none | some .null => do
    let raw ← text value "role"
    let role ← approverRole raw
    pure [role]
  | some (.list items) => items.mapM fun item => do
    let raw ← textEntry "roles" item
    approverRole raw
  | some _ => .error (.standing "'roles' MUST be an array of authority classes")

def integer (value : Mapping) (key : String) : Except RecordError ℤ :=
  match value.lookup key with
  | some (.int raw) => .ok raw
  | _ => .error (.standing (quoted key ++ " MUST be an integer"))

def boolean (value : Mapping) (key : String) : Except RecordError Bool :=
  match value.lookup key with
  | some (.bool raw) => .ok raw
  | _ => .error (.standing (quoted key ++ " MUST be a boolean"))

def instant (value : Mapping) (key : String) : Except RecordError ℤ := do
  let raw ← text value key
  match host.fromisoformat (replaceChars "Z" "+00:00" raw) with
  | none => .error (.standing (quoted key ++ " MUST be an RFC 3339 instant"))
  | some (.naive _) => .error (.standing (quoted key ++ " MUST carry an explicit timezone"))
  | some (.aware parsed) =>
    -- `astimezone(UTC)` has no year 0 or 10000
    if InDatetimeRange parsed then .ok parsed else .error .overflow

def approval (item : Mapping) : Except RecordError Approval := do
  let principal ← text item "principal"
  let roles ← approvalRoles item
  let approvedAt ← instant host item "approved_at"
  pure { principal, roles, approvedAt }

def scope (value : Mapping) : Except RecordError AuthorizationScope := do
  let child ← mapping value "scope"
  let rawLevel ← text child "level"
  let level ← scopeLevel rawLevel
  let content ← text child "value"
  pure { level, value := content }

def pins (value : Mapping) : Except RecordError AuthorizationPins := do
  let child ← mapping value "pins"
  let policyDigest ← text child "policy_digest"
  let targetRevision ← text child "target_revision"
  let actionTypeVersions ← textTuple child "action_type_versions"
  let evidenceRevisions ← textTuple child "evidence_revisions"
  pure { policyDigest, targetRevision, actionTypeVersions, evidenceRevisions }

def envelope (value : Mapping) : Except RecordError AuthorizationEnvelope := do
  let child ← mapping value "envelope"
  let actionTypes ← textTuple child "action_types"
  let maxBlastRadius ← integer child "max_blast_radius"
  let maxDurationSeconds ← integer child "max_duration_seconds"
  let reversible ← boolean child "reversible"
  let rollbackContract ← text child "rollback_contract"
  let stopConditions ← textTuple child "stop_conditions"
  pure { actionTypes, maxBlastRadius, maxDurationSeconds, reversible, rollbackContract
         stopConditions }

def responders (value : Mapping) : Except RecordError Responders := do
  let child ← mapping value "responders"
  let primary ← text child "primary"
  let backup ← text child "backup"
  let confirmedAt ← instant host child "confirmed_at"
  pure { primary, backup, confirmedAt }

def evidence (value : Mapping) : Except RecordError AuthorizationEvidence := do
  let child ← mapping value "evidence"
  let historyReviewed ← boolean child "history_reviewed"
  let precedentRef ← optionalText child "precedent_ref"
  let scenarioEvidenceRef ← optionalText child "scenario_evidence_ref"
  pure { historyReviewed, precedentRef, scenarioEvidenceRef }

/-- The fields of a document, in the order in which they are read. -/
def readFields (value : Mapping) : Except RecordError AuthorizationFields := do
  let schemaVersion ← text value "schema_version"
  let id ← text value "id"
  let authorizationRevision ← text value "authorization_revision"
  let approvalProfile ← approvalProfile value
  let operatorPrincipal ← optionalText value "operator_principal"
  let rawStatus ← text value "status"
  let status ← authorizationStatus rawStatus
  let rawMode ← text value "mode"
  let mode ← authorizationMode rawMode
  let requestedBy ← text value "requested_by"
  let items ← sequence value "approvals"
  let approvals ← items.mapM (approval host)
  let quorumRequired ← integer value "quorum_required"
  let validFrom ← instant host value "valid_from"
  let validUntil ← instant host value "valid_until"
  let serviceRef ← text value "service_ref"
  let scope ← scope value
  let pins ← pins value
  let envelope ← envelope value
  let incidentClasses ← textTuple value "incident_classes"
  let responders ← responders host value
  let evidence ← evidence value
  pure { schemaVersion, id, authorizationRevision, approvalProfile, operatorPrincipal, status, mode
         requestedBy, approvals, quorumRequired, validFrom, validUntil, serviceRef, scope, pins
         envelope, incidentClasses, responders, evidence }

def fromMapping (value : Mapping) : Except RecordError StandingAuthorization := do
  validate [(standingAuthorizationSchema host (.object value), .schema)]
  let fields ← readFields host value
  construct AuthorizationFields.check fields

end

end Fdai.Core.StandingRecords
