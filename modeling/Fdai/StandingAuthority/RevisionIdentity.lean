import Fdai.StandingAuthority.RecordReading

/-!
# The identity of a revision

Every record that is parsed has a revision, whose document is parsed back to it; and revisions are
the same exactly if their place in a family and their terms are.

* `create_eq_ok` — a revision is created, with the identity that its proofs sign.
* `terms_of_canonical` — the canonical terms of a record determine them.
* `identity_roundTrips` — both, of every accepted document and every two revisions.
-/

namespace Fdai.Core.StandingRecords

open Fdai.Documents
open Fdai.Documents.Json (canonicalFields canonicalItems lookup_canonicalFields)

section

variable {fields fields' : Mapping}

theorem jsonObject_canonical (name : String) (fields : Mapping) :
    jsonObject name (Json.canonical (.object fields)) = .ok (canonicalFields fields) :=
  if_pos (Json.canonical_canonical (.object fields))

theorem jsonObject_eq_ok {name : String} {value : Json} (read : jsonObject name value = .ok fields) :
    value = .object fields ∧ value.canonical = value := by
  unfold jsonObject at read
  split at read
  · split at read
    · rename_i canonical
      obtain rfl := Except.ok.inj read
      exact ⟨rfl, canonical⟩
    · cases read
  · cases read

/-- What is looked up in two objects with one canonical text. -/
theorem lookup_of_canonical
    (same : Json.canonical (.object fields) = Json.canonical (.object fields')) (name : String) :
    (fields.lookup name).map Json.canonical = (fields'.lookup name).map Json.canonical := by
  rw [← lookup_canonicalFields, ← lookup_canonicalFields, Json.object.inj same]

theorem texts_injective : Function.Injective Json.texts := by
  intro values values' same
  exact List.map_injective_iff.2 (fun _ _ => Json.text.inj) (Json.list.inj same)

theorem texts_of_canonical {values values' : List String}
    (same : some (Json.texts values).canonical = some (Json.texts values').canonical) :
    values = values' := by
  rw [Json.canonical_texts, Json.canonical_texts] at same
  exact texts_injective (Option.some.inj same)

theorem optional_injective : Function.Injective Json.optional := by
  intro value value' same
  cases value with
  | none =>
    cases value' with
    | none => rfl
    | some content => cases same
  | some content =>
    cases value' with
    | none => cases same
    | some content' => rw [Json.text.inj same]

theorem int_of_some {number number' : ℤ} (same : some (Json.int number) =
    some (Json.int number')) : number = number' :=
  Json.int.inj (Option.some.inj same)

theorem text_of_some {content content' : String} (same : some (Json.text content) =
    some (Json.text content')) : content = content' :=
  Json.text.inj (Option.some.inj same)

end

section

variable {host : Host}

theorem isSha256_contentDigest (lawful : host.Lawful) (value : Json) :
    isSha256 (contentDigest host value) = true := by
  have chars : (contentDigest host value).toList =
      "sha256:".toList ++ (host.sha256 value.canonical).toList := String.toList_append
  have mark : (contentDigest host value).toList.take 7 = "sha256:".toList := by
    rw [chars]
    exact List.take_left' rfl
  have hex : (contentDigest host value).toList.drop 7 = (host.sha256 value.canonical).toList := by
    rw [chars]
    exact List.drop_left' rfl
  unfold isSha256
  rw [mark, hex, lawful.hexdigest, decide_eq_true rfl]
  rfl

theorem isText_of_isSha256 {digest : String} (isDigest : isSha256 digest = true) :
    IsText digest := by
  unfold isSha256 at isDigest
  obtain ⟨mark, hex⟩ := Bool.and_eq_true _ _ ▸ isDigest
  replace mark : digest.toList.take 7 = "sha256:".toList := of_decide_eq_true mark
  have split := List.take_append_drop 7 digest.toList
  have hexChar {c : Char} (isChar : isLowerHex c = true) : isSpace c = false := by
    have digitOrLetter : c.isDigit = true ∨ 'a' ≤ c ∧ c ≤ 'f' := by simpa [isLowerHex] using isChar
    rcases digitOrLetter with digit | letter
    · exact isSpace_of_isTimestampChar (by simp [isTimestampChar, digit])
    · have name : 'a' ≤ c ∧ c ≤ 'z' := ⟨letter.1, letter.2.trans (by decide)⟩
      exact isSpace_of_isNameChar (by simp [isNameChar, isLowerAlphanumeric, name])
  refine isText_of_isSpaceless (isSpaceless_iff.2 ?_) ?_
  · intro c isChar
    rw [← split, List.mem_append, mark] at isChar
    rcases isChar with isMark | isHexChar
    · have marks : isSpaceless "sha256:" = true := by decide
      exact isSpaceless_iff.1 marks c isMark
    · exact hexChar (List.all_eq_true.1 (Bool.and_eq_true _ _ ▸ hex).2 c isHexChar)
  · rintro rfl
    cases mark

theorem contentDigest_canonical (value : Json) :
    contentDigest host value.canonical = contentDigest host value := by
  unfold contentDigest
  rw [Json.canonical_canonical]

end

/-! ## Creating a revision -/

theorem awareUtc_aware {name : String} {instant : ℤ} (inRange : InDatetimeRange instant) :
    awareUtc name (.aware instant) = .ok instant :=
  if_pos inRange

structure Admissible (request : RevisionRequest) : Prop where
  familyId : (requireText "family_id" request.familyId).1 = true
  predecessor : ∀ predecessor ∈ request.predecessorRevisionId, isSha256 predecessor = true
  issuedAt : ∃ instant, request.issuedAt = .aware instant ∧ InDatetimeRange instant

/-- Proofs over the identity of the revision. -/
structure Proven (host : Host) (request : RevisionRequest) : Prop where
  subject : authorizationRevisionId host request = .ok request.proofSubjectRevisionId
  approvals : isSha256 request.approvalsDigest = true
  evidence : isSha256 request.evidenceVerificationBundleDigest = true

/-- A record as a revision keeps it. -/
def AuthorizationFields.effective (fields : AuthorizationFields) (revisionId : String) :
    AuthorizationFields :=
  { fields with authorizationRevision := revisionId, status := .active }

def parseDocument (host : Host) (revision : RevisionFields) :
    Except RecordError StandingAuthorization := do
  let document ← jsonObject "document_json" revision.documentJson
  fromMapping host document

/-- A revision of a request: its place, its identity, and the record that its document is parsed
to. -/
structure RoundTrip (host : Host) (request : RevisionRequest) (revision : RevisionFields)
    (parsed : StandingAuthorization) : Prop where
  familyId : revision.familyId = request.familyId
  predecessor : revision.predecessorRevisionId = request.predecessorRevisionId
  issuedAt : revision.issuedAt = request.issuedAt
  revisionId : authorizationRevisionId host request = .ok revision.revisionId
  isParsed : parseDocument host revision = .ok parsed
  replaced : parsed.val = request.authorization.val.effective revision.revisionId

section

variable {host : Host}

theorem Admitted.effective {fields : AuthorizationFields} (admitted : Admitted host fields)
    (revisionId : String) : Admitted host (fields.effective revisionId) :=
  ⟨admitted.schemaVersion, admitted.id, admitted.operatorPrincipal, admitted.requestedBy,
    admitted.approved, admitted.severally, admitted.approvals, admitted.validFrom,
    admitted.validUntil, admitted.serviceRef, admitted.scope, admitted.pins, admitted.envelope,
    admitted.incidentClasses, admitted.responders, admitted.evidence⟩

/-- The document of an admitted record, read from its canonical text. -/
theorem fromMapping_canonical_document (lawful : host.Lawful) {authorization : StandingAuthorization}
    (admitted : Admitted host authorization.val)
    (revised : isSha256 authorization.val.authorizationRevision = true) :
    fromMapping host (canonicalFields (authorizationDocument authorization.val)) =
      .ok authorization := by
  rw [fromMapping_canonical]
  exact fromMapping_document lawful authorization admitted (isText_of_isSha256 revised)

/-- What the constructor of a revision checks holds of a record that is kept under the digest of its
terms, with its claims bound to that digest. -/
theorem check_of_bound (lawful : host.Lawful) {authorization : StandingAuthorization}
    (admitted : Admitted host authorization.val) {familyId : String} {predecessor : Option String}
    {issuedAt : ℤ} (bindings : AuthorizationProofBindings)
    (family : (requireText "family_id" familyId).1 = true)
    (wellFormed : ∀ digest ∈ predecessor, isSha256 digest = true)
    (inRange : InDatetimeRange issuedAt)
    (identity : authorization.val.authorizationRevision = contentDigest host
      (.object (authorizationTerms authorization.val familyId predecessor issuedAt)))
    (active : authorization.val.status = .active)
    (subject : bindings.val.revisionId = authorization.val.authorizationRevision)
    (approvals : bindings.val.approvalClaimDigest = claimDigest host
      authorization.val.authorizationRevision "approvals" (approvalClaims authorization.val))
    (evidence : bindings.val.evidenceClaimDigest = claimDigest host
      authorization.val.authorizationRevision "evidence" (evidenceClaims authorization.val)) :
    RevisionFields.check host {
      familyId := familyId
      revisionId := authorization.val.authorizationRevision
      predecessorRevisionId := predecessor
      issuedAt := .aware issuedAt
      termsJson :=
        Json.canonical (.object (authorizationTerms authorization.val familyId predecessor issuedAt))
      documentJson := Json.canonical (.object (authorizationDocument authorization.val))
      proofBindings := bindings } = .ok () := by
  have isDigest : isSha256 authorization.val.authorizationRevision = true := by
    rw [identity]
    exact isSha256_contentDigest lawful _
  have parsed := fromMapping_canonical_document lawful admitted isDigest
  refine check_bind_eq_ok.2 ⟨?_, ?_⟩
  · simp only [validate_cons_eq_ok, validate_nil, and_true]
    refine ⟨family, isDigest, ?_, rfl, decide_eq_true subject⟩
    cases predecessor with
    | none => rfl
    | some digest => exact wellFormed digest rfl
  refine bind_eq_ok.2 ⟨_, jsonObject_canonical _ _, ?_⟩
  refine bind_eq_ok.2 ⟨_, jsonObject_canonical _ _, ?_⟩
  refine check_bind_eq_ok.2 ⟨?_, ?_⟩
  · simp only [validate_cons_eq_ok, validate_nil, and_true, decide_eq_true_eq,
      lookup_canonicalFields]
    refine ⟨rfl, ?_, ?_, rfl, ?_⟩
    · show (Json.optional predecessor).canonical = _
      exact Json.canonical_optional predecessor
    · rw [identity]
      exact contentDigest_canonical (.object (authorizationTerms _ _ _ _))
    · show some (Json.text authorization.val.status.value) = _
      rw [active]
  refine bind_eq_ok.2 ⟨_, parsed, ?_⟩
  refine bind_eq_ok.2 ⟨_, awareUtc_aware inRange, ?_⟩
  simp only [validate_cons_eq_ok, validate_nil, and_true, decide_eq_true_eq]
  exact ⟨rfl, approvals, evidence⟩

/-- **A revision is created**, and its document is parsed to the record it keeps. -/
theorem create_eq_ok (lawful : host.Lawful) {request : RevisionRequest}
    (admitted : Admitted host request.authorization.val) (admissible : Admissible request)
    (proven : Proven host request) :
    ∃ revision parsed, create host request = .ok revision ∧
      RoundTrip host request revision.val parsed := by
  obtain ⟨issuedAt, isIssued, inRange⟩ := admissible.issuedAt
  have utc : awareUtc "timestamp" request.issuedAt = .ok issuedAt := by
    rw [isIssued]
    exact awareUtc_aware inRange
  have subject := proven.subject
  unfold authorizationRevisionId at subject
  rw [utc] at subject
  replace subject := (Except.ok.inj subject).symm
  let effective : StandingAuthorization :=
    ⟨request.authorization.val.effective request.proofSubjectRevisionId, request.authorization.2⟩
  have keeps : Admitted host effective.val := admitted.effective _
  have isDigest : isSha256 request.proofSubjectRevisionId = true := by
    rw [subject]
    exact isSha256_contentDigest lawful _
  let bindings : ProofBindingFields := {
    revisionId := request.proofSubjectRevisionId
    approvalClaimDigest :=
      claimDigest host request.proofSubjectRevisionId "approvals" (approvalClaims effective.val)
    approvalsDigest := request.approvalsDigest
    evidenceClaimDigest :=
      claimDigest host request.proofSubjectRevisionId "evidence" (evidenceClaims effective.val)
    evidenceVerificationBundleDigest := request.evidenceVerificationBundleDigest }
  have bound : bindings.check = .ok () := by
    simp only [ProofBindingFields.check, validate_cons_eq_ok, validate_nil, and_true]
    exact ⟨isDigest, isSha256_contentDigest lawful _, proven.approvals,
      isSha256_contentDigest lawful _, proven.evidence⟩
  have passed := check_of_bound lawful keeps ⟨bindings, bound⟩ admissible.familyId
    admissible.predecessor inRange subject rfl rfl rfl rfl
  refine ⟨⟨_, passed⟩, effective, ?_, rfl, rfl, isIssued.symm, proven.subject, ?_, rfl⟩
  · refine bind_eq_ok.2 ⟨issuedAt, utc, ?_⟩
    dsimp only
    rw [← subject]
    refine bind_eq_ok.2 ⟨effective, construct_eq_ok.2 rfl, ?_⟩
    refine bind_eq_ok.2 ⟨⟨bindings, bound⟩, construct_eq_ok.2 rfl, ?_⟩
    exact construct_eq_ok.2 rfl
  · refine bind_eq_ok.2 ⟨_, jsonObject_canonical _ _, ?_⟩
    exact fromMapping_canonical_document lawful keeps isDigest

end

/-! ## What the terms determine -/

/-- The terms of a record: neither its revision, its status nor what it was approved on. -/
def AuthorizationFields.terms (fields : AuthorizationFields) : AuthorizationFields :=
  { fields with
    authorizationRevision := ""
    status := .active
    approvals := []
    evidence := { historyReviewed := false, precedentRef := none, scenarioEvidenceRef := none } }

theorem instantText_injective {instant instant' : ℤ} (inRange : InDatetimeRange instant)
    (inRange' : InDatetimeRange instant') (same : instantText instant = instantText instant') :
    instant = instant' := by
  rw [← fromIsoformat_isoformat inRange, ← fromIsoformat_isoformat inRange',
    ← replaceChars_instantText, ← replaceChars_instantText, same]

section

variable {host : Host}

theorem onlyMode (mode mode' : AuthorizationMode) : mode = mode' := by
  cases mode
  cases mode'
  rfl

theorem level_of_value {level level' : ScopeLevel} (same : level.value = level'.value) :
    level = level' := by
  have read := scopeLevel_value level
  rw [same, scopeLevel_value] at read
  exact (Except.ok.inj read).symm

theorem scope_of_canonical {scope scope' : AuthorizationScope}
    (same : (scopeClaims scope).canonical = (scopeClaims scope').canonical) : scope = scope' := by
  have looked := lookup_of_canonical same
  refine AuthorizationScope.ext ?_ ?_
  · exact level_of_value (text_of_some (looked "level"))
  · exact text_of_some (looked "value")

theorem pins_of_canonical {pins pins' : AuthorizationPins}
    (same : (pinsClaims pins).canonical = (pinsClaims pins').canonical) : pins = pins' := by
  have looked := lookup_of_canonical same
  refine AuthorizationPins.ext ?_ ?_ ?_ ?_
  · exact text_of_some (looked "policy_digest")
  · exact text_of_some (looked "target_revision")
  · exact texts_of_canonical (looked "action_type_versions")
  · exact texts_of_canonical (looked "evidence_revisions")

theorem envelope_of_canonical {envelope envelope' : AuthorizationEnvelope}
    (same : (envelopeClaims envelope).canonical = (envelopeClaims envelope').canonical) :
    envelope = envelope' := by
  have looked := lookup_of_canonical same
  refine AuthorizationEnvelope.ext ?_ ?_ ?_ ?_ ?_ ?_
  · exact texts_of_canonical (looked "action_types")
  · exact int_of_some (looked "max_blast_radius")
  · exact int_of_some (looked "max_duration_seconds")
  · exact Json.bool.inj (Option.some.inj (looked "reversible"))
  · exact text_of_some (looked "rollback_contract")
  · exact texts_of_canonical (looked "stop_conditions")

theorem responders_of_canonical {responders responders' : Responders}
    (admitted : AdmittedResponders responders) (admitted' : AdmittedResponders responders')
    (same : (respondersClaims responders).canonical = (respondersClaims responders').canonical) :
    responders = responders' := by
  have looked := lookup_of_canonical same
  refine Responders.ext ?_ ?_ ?_
  · exact text_of_some (looked "primary")
  · exact text_of_some (looked "backup")
  · exact instantText_injective admitted.confirmedAt admitted'.confirmedAt
      (text_of_some (looked "confirmed_at"))

/-- **The profile and its operator**: several operators leave both out of the terms. -/
theorem profile_of_canonical {fields fields' : AuthorizationFields} (passed : fields.check = .ok ())
    (passed' : fields'.check = .ok ())
    (profile : ((profileClaims fields).lookup "approval_profile").map Json.canonical =
      ((profileClaims fields').lookup "approval_profile").map Json.canonical)
    (operator : ((profileClaims fields).lookup "operator_principal").map Json.canonical =
      ((profileClaims fields').lookup "operator_principal").map Json.canonical) :
    fields.approvalProfile = fields'.approvalProfile ∧
      fields.operatorPrincipal = fields'.operatorPrincipal := by
  unfold profileClaims at profile operator
  cases isProfile : fields.approvalProfile with
  | multiOperator =>
    cases isProfile' : fields'.approvalProfile with
    | multiOperator =>
      refine ⟨rfl, ?_⟩
      rw [(operator_of_check passed isProfile).1, (operator_of_check passed' isProfile').1]
    | singleOperatorProduction =>
      rw [isProfile, isProfile'] at profile
      cases profile
  | singleOperatorProduction =>
    cases isProfile' : fields'.approvalProfile with
    | multiOperator =>
      rw [isProfile, isProfile'] at profile
      cases profile
    | singleOperatorProduction =>
      rw [isProfile, isProfile'] at operator
      replace operator : some (Json.optional fields.operatorPrincipal).canonical =
        some (Json.optional fields'.operatorPrincipal).canonical := operator
      rw [Json.canonical_optional, Json.canonical_optional] at operator
      exact ⟨rfl, optional_injective (Option.some.inj operator)⟩

/-- **The terms** are determined by their canonical text, and so is the place of a revision. -/
theorem terms_of_canonical {fields fields' : AuthorizationFields} (passed : fields.check = .ok ())
    (passed' : fields'.check = .ok ()) (admitted : Admitted host fields)
    (admitted' : Admitted host fields') {familyId familyId' : String}
    {predecessor predecessor' : Option String} {issuedAt issuedAt' : ℤ}
    (inRange : InDatetimeRange issuedAt) (inRange' : InDatetimeRange issuedAt')
    (same : Json.canonical (.object (authorizationTerms fields familyId predecessor issuedAt)) =
      Json.canonical (.object (authorizationTerms fields' familyId' predecessor' issuedAt'))) :
    familyId = familyId' ∧ predecessor = predecessor' ∧ issuedAt = issuedAt' ∧
      fields.terms = fields'.terms := by
  have looked := lookup_of_canonical same
  have isPredecessor : some (Json.optional predecessor).canonical =
    some (Json.optional predecessor').canonical := looked "predecessor_revision_id"
  rw [Json.canonical_optional, Json.canonical_optional] at isPredecessor
  obtain ⟨profile, operator⟩ := profile_of_canonical passed passed' (looked "approval_profile")
    (looked "operator_principal")
  refine ⟨text_of_some (looked "family_id"), optional_injective (Option.some.inj isPredecessor),
    instantText_injective inRange inRange' (text_of_some (looked "issued_at")), ?_⟩
  refine AuthorizationFields.ext ?_ ?_ rfl profile operator rfl ?_ ?_ rfl ?_ ?_ ?_ ?_ ?_ ?_ ?_ ?_ ?_
    rfl
  · exact text_of_some (looked "schema_version")
  · exact text_of_some (looked "authorization_id")
  · exact onlyMode fields.mode fields'.mode
  · exact text_of_some (looked "requested_by")
  · exact int_of_some (looked "quorum_required")
  · exact instantText_injective admitted.validFrom admitted'.validFrom
      (text_of_some (looked "valid_from"))
  · exact instantText_injective admitted.validUntil admitted'.validUntil
      (text_of_some (looked "valid_until"))
  · exact text_of_some (looked "service_ref")
  · exact scope_of_canonical (Option.some.inj (looked "scope"))
  · exact pins_of_canonical (Option.some.inj (looked "pins"))
  · exact envelope_of_canonical (Option.some.inj (looked "envelope"))
  · exact texts_of_canonical (looked "incident_classes")
  · exact responders_of_canonical admitted.responders admitted'.responders
      (Option.some.inj (looked "responders"))

/-! ## The identity of a revision -/

/-- What a revision is: the terms it was issued for, of the record that its document is parsed to. -/
structure Kept (host : Host) (revision : RevisionFields) (parsed : StandingAuthorization)
    (issuedAt : ℤ) : Prop where
  issued : revision.issuedAt = .aware issuedAt ∧ InDatetimeRange issuedAt
  admitted : Admitted host parsed.val
  terms : revision.termsJson = Json.canonical (.object (authorizationTerms parsed.val
    revision.familyId revision.predecessorRevisionId issuedAt))
  identity : revision.revisionId = contentDigest host revision.termsJson

/-- **What the constructor of a revision checks** of the record that its document is parsed to. -/
theorem kept_of_check (lawful : host.Lawful) {revision : RevisionFields}
    {parsed : StandingAuthorization} (passed : revision.check host = .ok ())
    (isParsed : parseDocument host revision = .ok parsed) :
    ∃ issuedAt, Kept host revision parsed issuedAt := by
  obtain ⟨-, passed⟩ := check_bind_eq_ok.1 passed
  obtain ⟨terms, isTerms, passed⟩ := bind_eq_ok.1 passed
  obtain ⟨document, isDocument, passed⟩ := bind_eq_ok.1 passed
  obtain ⟨checked, passed⟩ := check_bind_eq_ok.1 passed
  obtain ⟨parsed', isParsed', passed⟩ := bind_eq_ok.1 passed
  obtain ⟨issuedAt, isIssued, passed⟩ := bind_eq_ok.1 passed
  obtain ⟨document', isDocument', isParsed⟩ := bind_eq_ok.1 isParsed
  obtain rfl := Except.ok.inj (isDocument.symm.trans isDocument')
  obtain rfl := Except.ok.inj (isParsed.symm.trans isParsed')
  simp only [validate_cons_eq_ok, validate_nil, and_true, decide_eq_true_eq] at checked passed
  obtain ⟨isObject, -⟩ := jsonObject_eq_ok isTerms
  refine ⟨issuedAt, ?_, admitted_of_fromMapping lawful isParsed, ?_, ?_⟩
  · unfold awareUtc at isIssued
    split at isIssued
    · cases isIssued
    split at isIssued
    · rename_i inRange
      obtain rfl := Except.ok.inj isIssued
      exact ⟨by assumption, inRange⟩
    · cases isIssued
  · rw [isObject]
    exact passed.1.symm
  · rw [isObject]
    exact checked.2.2.1.symm

/-- No two canonical texts of these values have one digest. -/
def CollisionFree (host : Host) (value value' : Json) : Prop :=
  host.sha256 value.canonical = host.sha256 value'.canonical → value.canonical = value'.canonical

structure SameRevision (revision revision' : RevisionFields)
    (parsed parsed' : StandingAuthorization) : Prop where
  familyId : revision.familyId = revision'.familyId
  predecessor : revision.predecessorRevisionId = revision'.predecessorRevisionId
  issuedAt : revision.issuedAt.instant? = revision'.issuedAt.instant?
  terms : parsed.val.terms = parsed'.val.terms

/-- Records with the same terms have the same encoding of them. -/
theorem authorizationTerms_terms (fields : AuthorizationFields) (familyId : String)
    (predecessor : Option String) (issuedAt : ℤ) :
    authorizationTerms fields.terms familyId predecessor issuedAt =
      authorizationTerms fields familyId predecessor issuedAt := rfl

theorem sameRevision_iff {revision revision' : RevisionFields}
    {parsed parsed' : StandingAuthorization} {issuedAt issuedAt' : ℤ}
    (kept : Kept host revision parsed issuedAt) (kept' : Kept host revision' parsed' issuedAt')
    (collisionFree : CollisionFree host revision.termsJson revision'.termsJson) :
    revision.revisionId = revision'.revisionId ↔ SameRevision revision revision' parsed parsed' := by
  constructor
  · intro same
    rw [kept.identity, kept'.identity] at same
    have digests : host.sha256 revision.termsJson.canonical =
        host.sha256 revision'.termsJson.canonical :=
      (String.append_right_inj "sha256:").1 same
    have texts := collisionFree digests
    rw [kept.terms, kept'.terms, Json.canonical_canonical, Json.canonical_canonical] at texts
    obtain ⟨family, predecessor, issued, terms⟩ := terms_of_canonical parsed.2 parsed'.2
      kept.admitted kept'.admitted kept.issued.2 kept'.issued.2 texts
    refine ⟨family, predecessor, ?_, terms⟩
    rw [kept.issued.1, kept'.issued.1, issued]
  · intro same
    have issued := same.issuedAt
    rw [kept.issued.1, kept'.issued.1] at issued
    have sameTerms := congrArg (fun fields => authorizationTerms fields revision.familyId
      revision.predecessorRevisionId issuedAt) same.terms
    rw [authorizationTerms_terms, authorizationTerms_terms] at sameTerms
    rw [kept.identity, kept'.identity, kept.terms, kept'.terms, sameTerms, same.familyId,
      same.predecessor, Option.some.inj issued]

end

/-- **Identities round-trip.** -/
structure IdentityRoundTrips (host : Host) : Prop where
  /-- A document that is accepted, a place that a revision admits and proofs over its identity give
  a revision, whose document is parsed to the record with its revision and status replaced. -/
  creates : ∀ document request,
    fromMapping host document = .ok request.authorization → Admissible request →
      Proven host request → ∃ revision parsed, create host request = .ok revision ∧
          RoundTrip host request revision.val parsed
  /-- Every revision has a record. -/
  parses : ∀ revision : AuthorizationRevision host,
    ∃ parsed, parseDocument host revision.val = .ok parsed
  /-- Two revisions have one identity exactly if they have the same place and terms. -/
  identifies : ∀ (revision revision' : AuthorizationRevision host) parsed parsed',
    parseDocument host revision.val = .ok parsed → parseDocument host revision'.val = .ok parsed' →
      CollisionFree host revision.val.termsJson revision'.val.termsJson →
        (revision.val.revisionId = revision'.val.revisionId ↔
          SameRevision revision.val revision'.val parsed parsed')

/-- **The identity of a revision round-trips.** -/
theorem identity_roundTrips (host : Host) (lawful : host.Lawful) : IdentityRoundTrips host where
  creates := by
    intro document request parsed admissible proven
    exact create_eq_ok lawful (admitted_of_fromMapping lawful parsed) admissible proven
  parses := by
    intro revision
    have passed := revision.2
    obtain ⟨-, passed⟩ := check_bind_eq_ok.1 passed
    obtain ⟨terms, -, passed⟩ := bind_eq_ok.1 passed
    obtain ⟨document, isDocument, passed⟩ := bind_eq_ok.1 passed
    obtain ⟨-, passed⟩ := check_bind_eq_ok.1 passed
    obtain ⟨parsed, isParsed, -⟩ := bind_eq_ok.1 passed
    exact ⟨parsed, bind_eq_ok.2 ⟨document, isDocument, isParsed⟩⟩
  identifies := by
    intro revision revision' parsed parsed' isParsed isParsed' collisionFree
    obtain ⟨issuedAt, kept⟩ := kept_of_check lawful revision.2 isParsed
    obtain ⟨issuedAt', kept'⟩ := kept_of_check lawful revision'.2 isParsed'
    exact sameRevision_iff kept kept' collisionFree

/-- A document for one operator, who approved in two roles. -/
def operatorDocument : Mapping := [ ("schema_version", .text "1.0.0"),
  ("id", .text "nightly-restart"),
  ("authorization_revision", .text "draft-3 "),
  ("approval_profile", .text "single-operator-production"),
  ("operator_principal", .text "operator@example"),
  ("status", .text "superseded"),
  ("mode", .text "shadow"),
  ("requested_by", .text "requester@example"),
  ("approvals", .list [.object [ ("principal", .text "operator@example"),
    ("roles", .texts ["owner", "approver"]),
    ("approved_at", .text "2026-01-01T00:00:00Z")]]),
  ("quorum_required", .int 1),
  ("valid_from", .text "2026-01-02T00:00:00Z"),
  ("valid_until", .text "2026-02-01T00:00:00Z"),
  ("service_ref", .text "service:web"),
  ("scope", .object [("level", .text "resource"), ("value", .text "vm-1")]),
  ("pins", .object [ ("policy_digest", .text "policy-1"), ("target_revision", .text "target-1"),
    ("action_type_versions", .texts ["restart@1.0.0"]),
    ("evidence_revisions", .texts [])]),
  ("envelope", .object [ ("action_types", .texts ["restart"]), ("max_blast_radius", .int 1),
    ("max_duration_seconds", .int 600),
    ("reversible", .bool true),
    ("rollback_contract", .text "scripted"),
    ("stop_conditions", .texts ["error-rate"])]),
  ("incident_classes", .texts ["latency"]),
  ("responders", .object [ ("primary", .text "first@example"), ("backup", .text "second@example"),
    ("confirmed_at", .text "2026-01-01T00:00:00Z")]),
  ("evidence", .object [("history_reviewed", .bool true), ("precedent_ref", .null)])]

/-- A digest that tells two families apart. -/
def familyDigest (value : Json) : String :=
  if value.get "family_id" = some (.text "restarts") then String.ofList (List.replicate 64 'a')
  else String.ofList (List.replicate 64 'b')

/-- A host with this digest. -/
def familyHost : Host where
  isDecimal := Char.isDigit
  fromisoformat := fun text => some (.aware (fromIsoformat text))
  sha256 := familyDigest

theorem familyHost_sha256 : familyHost.sha256 = familyDigest := rfl

theorem familyHost_lawful : familyHost.Lawful where
  decimal := by
    intro c digit
    refine isSpace_of_isTimestampChar ?_
    unfold isTimestampChar
    rw [show c.isDigit = true from digit, Bool.true_or]
  readsBack := by
    intro instant inRange
    show some (Datetime.aware (fromIsoformat (isoformat instant))) = _
    rw [fromIsoformat_isoformat inRange]
  hexdigest := by
    intro value
    show isHex 64 (familyDigest value).toList = true
    unfold familyDigest
    split <;> decide

theorem operatorDocument_accepted :
    ∃ authorization, fromMapping familyHost operatorDocument = .ok authorization := by
  have accepted : (fromMapping familyHost operatorDocument).isOk = true := by decide +kernel
  cases parsed : fromMapping familyHost operatorDocument with
  | ok authorization => exact ⟨authorization, rfl⟩
  | error error =>
    rw [parsed] at accepted
    cases accepted

theorem familyDigest_terms (fields : AuthorizationFields) (familyId : String)
    (predecessor : Option String) (issuedAt : ℤ) :
    familyDigest (Json.canonical (.object (authorizationTerms fields familyId predecessor issuedAt))) =
      if familyId = "restarts" then String.ofList (List.replicate 64 'a')
      else String.ofList (List.replicate 64 'b') := by
  have family : (Json.canonical (.object (authorizationTerms fields familyId predecessor
      issuedAt))).get "family_id" = some (.text familyId) := by
    rw [Json.get_canonical]
    rfl
  unfold familyDigest
  rw [family]
  by_cases isRestarts : familyId = "restarts"
  · rw [if_pos isRestarts, isRestarts, if_pos rfl]
  · rw [if_neg isRestarts, if_neg fun same => isRestarts (text_of_some same)]

def firstRevision (familyId subject : String) (issuedAt : ℤ) (authorization : StandingAuthorization) :
    RevisionRequest where
  familyId := familyId
  predecessorRevisionId := none
  issuedAt := .aware issuedAt
  authorization := authorization
  approvalsDigest := "sha256:" ++ String.ofList (List.replicate 64 '1')
  evidenceVerificationBundleDigest := "sha256:" ++ String.ofList (List.replicate 64 '2')
  proofSubjectRevisionId := "sha256:" ++ subject

theorem proven_firstRevision {familyId subject : String} {issuedAt : ℤ}
    (inRange : InDatetimeRange issuedAt) (isSubject : subject =
      if familyId = "restarts" then String.ofList (List.replicate 64 'a')
      else String.ofList (List.replicate 64 'b')) (authorization : StandingAuthorization) :
    Proven familyHost (firstRevision familyId subject issuedAt authorization) where
  subject := by
    have digest := familyDigest_terms authorization.val familyId none issuedAt
    rw [← isSubject] at digest
    refine bind_eq_ok.2 ⟨issuedAt, awareUtc_aware inRange, ?_⟩
    show Except.ok (contentDigest familyHost (.object
      (authorizationTerms authorization.val familyId none issuedAt))) = .ok ("sha256:" ++ subject)
    unfold contentDigest
    rw [familyHost_sha256, digest]
  approvals := (by decide : isSha256 ("sha256:" ++ String.ofList (List.replicate 64 '1')) = true)
  evidence := (by decide : isSha256 ("sha256:" ++ String.ofList (List.replicate 64 '2')) = true)

/-- Revisions of one document in two families. -/
theorem identity_roundTrips_families : ∃ revision revision' : AuthorizationRevision familyHost,
      revision.val.familyId = "restarts" ∧ revision'.val.familyId = "reboots" ∧
        revision.val.revisionId ≠ revision'.val.revisionId := by
  obtain ⟨creates, parses, identifies⟩ := identity_roundTrips familyHost familyHost_lawful
  obtain ⟨authorization, accepted⟩ := operatorDocument_accepted
  obtain ⟨issuedAt, inRange⟩ : ∃ issuedAt, InDatetimeRange issuedAt := ⟨0, by decide⟩
  obtain ⟨revision, parsed, -, trip⟩ := creates operatorDocument
    (firstRevision "restarts" (String.ofList (List.replicate 64 'a')) issuedAt authorization) accepted
    ⟨(by decide : (requireText "family_id" "restarts").1 = true), by simp [firstRevision], _, rfl,
      inRange⟩ (proven_firstRevision inRange rfl authorization)
  obtain ⟨revision', parsed', -, trip'⟩ := creates operatorDocument
    (firstRevision "reboots" (String.ofList (List.replicate 64 'b')) issuedAt authorization) accepted
    ⟨(by decide : (requireText "family_id" "reboots").1 = true), by simp [firstRevision], _, rfl,
      inRange⟩ (proven_firstRevision inRange rfl authorization)
  refine ⟨revision, revision', trip.familyId, trip'.familyId, ?_⟩
  have collisionFree : CollisionFree familyHost revision.val.termsJson revision'.val.termsJson := by
    obtain ⟨_, kept⟩ := kept_of_check familyHost_lawful revision.2 trip.isParsed
    obtain ⟨_, kept'⟩ := kept_of_check familyHost_lawful revision'.2 trip'.isParsed
    intro same
    have digests : familyDigest revision.val.termsJson.canonical =
      familyDigest revision'.val.termsJson.canonical := same
    rw [kept.terms, kept'.terms, Json.canonical_canonical, Json.canonical_canonical,
      familyDigest_terms, familyDigest_terms, trip.familyId, trip'.familyId] at digests
    have marks : String.ofList (List.replicate 64 'a') = String.ofList (List.replicate 64 'b') :=
      digests
    exact absurd marks (by decide)
  intro same
  have sameRevision := (identifies revision revision' parsed parsed' trip.isParsed trip'.isParsed
    collisionFree).1 same
  have families : "restarts" = "reboots" :=
    trip.familyId.symm.trans (sameRevision.familyId.trans trip'.familyId)
  exact absurd families (by decide)

end Fdai.Core.StandingRecords
