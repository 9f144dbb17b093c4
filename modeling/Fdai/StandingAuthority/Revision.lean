import Fdai.StandingAuthority.Record

/-!
# Revisions of a standing authorization

A revision is identified by the digest of its terms, and binds the proofs of its approvals and of its
evidence to that digest.

* `authorizationTerms`, `authorizationDocument`, `approvalClaims`, `evidenceClaims` — the encodings
  of a record.
* `RevisionFields`, `AuthorizationRevision` — a revision, and one that its constructor accepts: its
  document is parsed again and encoded anew.
* `create`, `authorizationRevisionId` — the revision of a record, and the identity that its proofs
  sign.

A canonical JSON text is kept as the value that it encodes.
-/

namespace Fdai.Core.StandingRecords

open Fdai.Documents

/-! ## Encodings -/

/-- `instant`. -/
def instantText (at_ : ℤ) : String := replaceChars "+00:00" "Z" (isoformat at_)

def scopeClaims (scope : AuthorizationScope) : Json := .object [ ("level", .text scope.level.value),
  ("value", .text scope.value)]

def pinsClaims (pins : AuthorizationPins) : Json := .object [
  ("policy_digest", .text pins.policyDigest),
  ("target_revision", .text pins.targetRevision),
  ("action_type_versions", .texts pins.actionTypeVersions),
  ("evidence_revisions", .texts pins.evidenceRevisions)]

def envelopeClaims (envelope : AuthorizationEnvelope) : Json := .object [
  ("action_types", .texts envelope.actionTypes),
  ("max_blast_radius", .int envelope.maxBlastRadius),
  ("max_duration_seconds", .int envelope.maxDurationSeconds),
  ("reversible", .bool envelope.reversible),
  ("rollback_contract", .text envelope.rollbackContract),
  ("stop_conditions", .texts envelope.stopConditions)]

def respondersClaims (responders : Responders) : Json := .object [
  ("primary", .text responders.primary),
  ("backup", .text responders.backup),
  ("confirmed_at", .text (instantText responders.confirmedAt))]

/-- The profile and its operator, which only a single operator has. -/
def profileClaims (fields : AuthorizationFields) : Mapping :=
  match fields.approvalProfile with
  | .singleOperatorProduction => [ ("approval_profile", .text fields.approvalProfile.value),
      ("operator_principal", .optional fields.operatorPrincipal)]
  | .multiOperator => []

def authorizationTerms (fields : AuthorizationFields) (familyId : String)
    (predecessorRevisionId : Option String) (issuedAt : ℤ) : Mapping :=
  [("family_id", .text familyId), ("issued_at", .text (instantText issuedAt)),
   ("predecessor_revision_id", .optional predecessorRevisionId),
   ("schema_version", .text fields.schemaVersion),
   ("authorization_id", .text fields.id),
   ("mode", .text fields.mode.value),
   ("requested_by", .text fields.requestedBy),
   ("quorum_required", .int fields.quorumRequired),
   ("valid_from", .text (instantText fields.validFrom)),
   ("valid_until", .text (instantText fields.validUntil)),
   ("service_ref", .text fields.serviceRef),
   ("scope", scopeClaims fields.scope),
   ("pins", pinsClaims fields.pins),
   ("envelope", envelopeClaims fields.envelope),
   ("incident_classes", .texts fields.incidentClasses),
   ("responders", respondersClaims fields.responders)] ++ profileClaims fields

/-- One claim of `_approval_claims`. -/
def approvalClaim (approval : Approval) : Mapping := [ ("principal", .text approval.principal),
  ("approved_at", .text (instantText approval.approvedAt)),
  match approval.roles with
  | [role] => ("role", .text role.value)
  | roles => ("roles", .texts (roles.map ApproverRole.value))]

def approvalClaims (fields : AuthorizationFields) : Json :=
  .list (fields.approvals.map fun approval => .object (approvalClaim approval))

def authorizationDocument (fields : AuthorizationFields) : Mapping :=
  [("schema_version", .text fields.schemaVersion), ("id", .text fields.id),
   ("authorization_revision", .text fields.authorizationRevision),
   ("status", .text fields.status.value),
   ("mode", .text fields.mode.value),
   ("requested_by", .text fields.requestedBy),
   ("approvals", approvalClaims fields),
   ("quorum_required", .int fields.quorumRequired),
   ("valid_from", .text (instantText fields.validFrom)),
   ("valid_until", .text (instantText fields.validUntil)),
   ("service_ref", .text fields.serviceRef),
   ("scope", scopeClaims fields.scope),
   ("pins", pinsClaims fields.pins),
   ("envelope", envelopeClaims fields.envelope),
   ("incident_classes", .texts fields.incidentClasses),
   ("responders", respondersClaims fields.responders),
   ("evidence", .object [ ("history_reviewed", .bool fields.evidence.historyReviewed),
     ("precedent_ref", .optional fields.evidence.precedentRef),
     ("scenario_evidence_ref", .optional fields.evidence.scenarioEvidenceRef)])] ++
  profileClaims fields

def evidenceClaims (fields : AuthorizationFields) : Json := .object [
  ("history_reviewed", .bool fields.evidence.historyReviewed),
  ("precedent_ref", .optional fields.evidence.precedentRef),
  ("scenario_evidence_ref", .optional fields.evidence.scenarioEvidenceRef),
  ("evidence_revisions", .texts fields.pins.evidenceRevisions)]

def requireText (name value : String) : Bool × RecordError :=
  (!isBlank value && value.length ≤ 512, .lifecycle (name ++ " MUST be bounded non-empty text"))

def requireDigest (name value : String) : Bool × RecordError :=
  (isSha256 value, .lifecycle (name ++ " MUST be a sha256 digest"))

def awareUtc (name : String) : Datetime → Except RecordError ℤ
  | .naive _ => .error (.lifecycle (name ++ " MUST be timezone-aware"))
  | .aware at_ => if InDatetimeRange at_ then .ok at_ else .error .overflow

def jsonObject (name : String) (value : Json) : Except RecordError Mapping :=
  match value with
  | .object fields =>
    if value.canonical = value then .ok fields
    else .error (.lifecycle (name ++ " MUST contain a canonical JSON object"))
  | _ => .error (.lifecycle (name ++ " MUST contain a canonical JSON object"))

section

variable (host : Host)

def contentDigest (value : Json) : String := "sha256:" ++ host.sha256 value.canonical

def claimDigest (revisionId name : String) (claims : Json) : String :=
  contentDigest host (.object [("revision_id", .text revisionId), (name, claims)])

/-! ## Revisions -/

/-- The fields of an `AuthorizationProofBindings`. -/
structure ProofBindingFields where
  revisionId : String
  approvalClaimDigest : String
  approvalsDigest : String
  evidenceClaimDigest : String
  evidenceVerificationBundleDigest : String

/-- `AuthorizationProofBindings.__post_init__`. -/
def ProofBindingFields.check (bindings : ProofBindingFields) : Except RecordError Unit := validate [
  requireDigest "revision_id" bindings.revisionId,
  requireDigest "approval_claim_digest" bindings.approvalClaimDigest,
  requireDigest "approvals_digest" bindings.approvalsDigest,
  requireDigest "evidence_claim_digest" bindings.evidenceClaimDigest,
  requireDigest "evidence_verification_bundle_digest" bindings.evidenceVerificationBundleDigest]

abbrev AuthorizationProofBindings := Valid ProofBindingFields.check

/-- The fields of an `AuthorizationRevision`. -/
structure RevisionFields where
  familyId : String
  revisionId : String
  predecessorRevisionId : Option String
  issuedAt : Datetime
  termsJson : Json
  documentJson : Json
  proofBindings : AuthorizationProofBindings

/-- `AuthorizationRevision.__post_init__`. -/
def RevisionFields.check (revision : RevisionFields) : Except RecordError Unit := do
  validate [ requireText "family_id" revision.familyId,
    requireDigest "revision_id" revision.revisionId,
    match revision.predecessorRevisionId with
    | none => (true, .overflow)
    | some predecessor => requireDigest "predecessor_revision_id" predecessor,
    (revision.issuedAt.instant?.isSome, .lifecycle "issued_at MUST be timezone-aware"),
    (revision.proofBindings.val.revisionId = revision.revisionId,
      .lifecycle "proof bindings MUST target the exact revision")]
  let terms ← jsonObject "terms_json" revision.termsJson
  let document ← jsonObject "document_json" revision.documentJson
  validate [ (terms.lookup "family_id" = some (.text revision.familyId),
      .lifecycle "revision terms family_id mismatch"),
    ((terms.lookup "predecessor_revision_id").getD .null = .optional revision.predecessorRevisionId,
      .lifecycle "revision predecessor mismatch"),
    (contentDigest host (.object terms) = revision.revisionId,
      .lifecycle "authorization revision digest mismatch"),
    (document.lookup "authorization_revision" = some (.text revision.revisionId),
      .lifecycle "authorization document revision mismatch"),
    (document.lookup "status" = some (.text AuthorizationStatus.active.value),
      .lifecycle "persisted authorization revision MUST be active")]
  let parsed ← fromMapping host document
  let issuedAt ← awareUtc "timestamp" revision.issuedAt
  validate [ (Json.canonical (.object (authorizationTerms parsed.val revision.familyId
        revision.predecessorRevisionId issuedAt)) = .object terms,
      .lifecycle "authorization document terms mismatch"),
    (revision.proofBindings.val.approvalClaimDigest =
        claimDigest host revision.revisionId "approvals" (approvalClaims parsed.val),
      .lifecycle "authorization approval claims mismatch"),
    (revision.proofBindings.val.evidenceClaimDigest =
        claimDigest host revision.revisionId "evidence" (evidenceClaims parsed.val),
      .lifecycle "authorization evidence claims mismatch")]

/-- **A revision** of a standing authorization. -/
abbrev AuthorizationRevision := Valid (RevisionFields.check host)

/-- What a revision is made of: its place in a family, its record, and the digests of its proofs. -/
structure RevisionRequest where
  familyId : String
  predecessorRevisionId : Option String
  issuedAt : Datetime
  authorization : StandingAuthorization
  approvalsDigest : String
  evidenceVerificationBundleDigest : String
  proofSubjectRevisionId : String

def authorizationRevisionId (request : RevisionRequest) : Except RecordError String := do
  let issuedAt ← awareUtc "timestamp" request.issuedAt
  pure (contentDigest host (.object (authorizationTerms request.authorization.val request.familyId
    request.predecessorRevisionId issuedAt)))

def create (request : RevisionRequest) : Except RecordError (AuthorizationRevision host) := do
  let issuedAt ← awareUtc "timestamp" request.issuedAt
  let terms := Json.object (authorizationTerms request.authorization.val request.familyId
    request.predecessorRevisionId issuedAt)
  let revisionId := contentDigest host terms
  let effective ← construct AuthorizationFields.check {
    request.authorization.val with
    authorizationRevision := revisionId
    status := .active }
  let proofBindings ← construct ProofBindingFields.check {
    revisionId := request.proofSubjectRevisionId
    approvalClaimDigest := claimDigest host revisionId "approvals" (approvalClaims effective.val)
    approvalsDigest := request.approvalsDigest
    evidenceClaimDigest := claimDigest host revisionId "evidence" (evidenceClaims effective.val)
    evidenceVerificationBundleDigest := request.evidenceVerificationBundleDigest }
  construct (RevisionFields.check host) {
    familyId := request.familyId
    revisionId
    predecessorRevisionId := request.predecessorRevisionId
    issuedAt := .aware issuedAt
    termsJson := terms.canonical
    documentJson := Json.canonical (.object (authorizationDocument effective.val))
    proofBindings }

end

end Fdai.Core.StandingRecords
