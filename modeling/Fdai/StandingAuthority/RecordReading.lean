import Fdai.StandingAuthority.RecordAdmitted
import Fdai.StandingAuthority.Revision

/-!
# A record is read back

Parsing does not see the order of a document's fields, and reads the document that is written of a
record back to that record.

* `fromMapping_canonical` — a document and its canonical text are parsed alike.
* `fromMapping_document` — the document of an admitted record is accepted, and parsed to it.
-/

namespace Fdai.Core.StandingRecords

open Fdai.Documents Fdai.Documents.Check
open Fdai.Documents.Json (canonicalFields canonicalItems lookup_canonicalFields)
open Fdai.JsonSchema (JsonType)

/-! ## The order of fields -/

section

variable (host : Host) (value : Mapping) (key : String)

@[simp] theorem orderless_textEnum (values : List String) : Orderless (textEnum values) := by
  simp [textEnum]

@[simp] theorem orderless_textItems (check : Check) (orderless : Orderless check) :
    Orderless (allOf (check :: textItems)) := by
  simp [textItems, orderless]

theorem orderless_approvalSchema : Orderless approvalSchema := by
  refine orderless_allOf ?_
  rw [List.forall_mem_cons, List.forall_mem_singleton]
  constructor
  · refine orderless_closedObject _ ?_
    simp
  · refine orderless_oneOf ?_
    simp

theorem orderless_pinsSchema : Orderless (pinsSchema host) := by
  have versions : Orderless (allOf [ofType .array, minItems 1,
      Check.items (allOf [ofType .string, pattern (anchored (isActionVersion host))])]) := by
    refine orderless_allOf ?_
    simp
  refine orderless_closedObject _ ?_
  simp [textItems, versions]

theorem orderless_envelopeSchema : Orderless envelopeSchema := by
  refine orderless_closedObject _ ?_
  simp

theorem orderless_profileRules : Orderless (allOf profileRules) := by
  have several : Orderless severalOperators := by
    refine orderless_anyOf ?_
    simp
  refine orderless_allOf ?_
  unfold profileRules
  rw [List.forall_mem_cons, List.forall_mem_singleton]
  constructor
  · have single : Orderless (allOf [required ["role"], refuses (required ["roles"])]) := by
      refine orderless_allOf ?_
      simp
    have two : Orderless (allOf [minItems 2,
        Check.items (allOf [required ["role"], refuses (required ["roles"])])]) := by
      refine orderless_allOf ?_
      simp [single]
    refine orderless_ifThen several (orderless_allOf ?_)
    simp [two]
  · refine orderless_ifThen (orderless_allOf ?_) (orderless_allOf ?_)
    · simp
    · simp

theorem orderless_standingAuthorizationSchema : Orderless (standingAuthorizationSchema host) := by
  refine orderless_allOf ?_
  rw [List.forall_mem_cons, List.forall_mem_singleton]
  refine ⟨orderless_closedObject _ ?_, orderless_profileRules⟩
  simp [declaredFields, orderless_approvalSchema, orderless_pinsSchema, orderless_envelopeSchema,
    scopeSchema, respondersSchema, evidenceSchema]

@[simp] theorem text_canonical : text (canonicalFields value) key = text value key := by
  unfold text
  rw [lookup_canonicalFields]
  cases value.lookup key with
  | none => rfl
  | some json => cases json <;> rfl

@[simp] theorem optionalText_canonical :
    optionalText (canonicalFields value) key = optionalText value key := by
  unfold optionalText
  rw [lookup_canonicalFields, text_canonical]
  cases value.lookup key with
  | none => rfl
  | some json => cases json <;> rfl

@[simp] theorem integer_canonical : integer (canonicalFields value) key = integer value key := by
  unfold integer
  rw [lookup_canonicalFields]
  cases value.lookup key with
  | none => rfl
  | some json => cases json <;> rfl

@[simp] theorem boolean_canonical : boolean (canonicalFields value) key = boolean value key := by
  unfold boolean
  rw [lookup_canonicalFields]
  cases value.lookup key with
  | none => rfl
  | some json => cases json <;> rfl

@[simp] theorem instant_canonical :
    instant host (canonicalFields value) key = instant host value key := by
  unfold instant
  rw [text_canonical]

theorem textEntry_canonical (item : Json) : textEntry key item.canonical = textEntry key item := by
  cases item <;> rfl

theorem mapM_canonicalItems {α : Type} (read : Json → Except RecordError α)
    (alike : ∀ item, read item.canonical = read item) (items : List Json) :
    (canonicalItems items).mapM read = items.mapM read := by
  rw [Json.canonicalItems_eq_map, List.mapM_map]
  exact congrArg (fun read => items.mapM read) (funext alike)

@[simp] theorem textTuple_canonical :
    textTuple (canonicalFields value) key = textTuple value key := by
  unfold textTuple
  rw [lookup_canonicalFields]
  rcases value.lookup key with _ | json
  · rfl
  cases json with
  | list items => exact mapM_canonicalItems _ (textEntry_canonical key) items
  | null | bool | int | float | text | object => rfl

@[simp] theorem approvalProfile_canonical :
    approvalProfile (canonicalFields value) = approvalProfile value := by
  unfold approvalProfile
  rw [lookup_canonicalFields, text_canonical]
  cases value.lookup "approval_profile" with
  | none => rfl
  | some json => cases json <;> rfl

@[simp] theorem approvalRoles_canonical :
    approvalRoles (canonicalFields value) = approvalRoles value := by
  unfold approvalRoles
  rw [lookup_canonicalFields, text_canonical]
  rcases value.lookup "roles" with _ | json
  · rfl
  cases json with
  | list items =>
    refine mapM_canonicalItems _ (fun item => ?_) items
    rw [textEntry_canonical]
  | null | bool | int | float | text | object => rfl

@[simp] theorem mapping_canonical :
    mapping (canonicalFields value) key = (mapping value key).map canonicalFields := by
  unfold mapping
  rw [lookup_canonicalFields]
  cases value.lookup key with
  | none => rfl
  | some json => cases json <;> rfl

/-- A fallible step whose results are changed item by item. -/
theorem mapM_map_result {α β γ : Type} (read : α → Except RecordError β) (change : β → γ)
    (items : List α) : items.mapM (fun item => (read item).map change) =
      (items.mapM read).map (List.map change) := by
  induction items with
  | nil => rfl
  | cons item rest ih =>
    rw [List.mapM_cons, List.mapM_cons, ih]
    cases read item with
    | error error => rfl
    | ok result => cases rest.mapM read <;> rfl

@[simp] theorem sequence_canonical :
    sequence (canonicalFields value) key = (sequence value key).map (List.map canonicalFields) := by
  unfold sequence
  rw [lookup_canonicalFields]
  rcases value.lookup key with _ | json
  · rfl
  cases json with
  | list items =>
    show (canonicalItems items).mapM _ = _
    rw [Json.canonicalItems_eq_map, List.mapM_map, ← mapM_map_result]
    congr 1
    funext item
    cases item <;> rfl
  | null | bool | int | float | text | object => rfl

@[simp] theorem approval_canonical : approval host (canonicalFields value) = approval host value := by
  simp [approval]

@[simp] theorem approval_comp_canonical : approval host ∘ canonicalFields = approval host :=
  funext (approval_canonical host)

theorem map_bind {α β γ : Type} (read : Except RecordError α) (f : α → β)
    (next : β → Except RecordError γ) : read.map f >>= next = read >>= fun a => next (f a) := by
  cases read <;> rfl

@[simp] theorem scope_canonical : scope (canonicalFields value) = scope value := by
  simp [scope, map_bind]

@[simp] theorem pins_canonical : pins (canonicalFields value) = pins value := by
  simp [pins, map_bind]

@[simp] theorem envelope_canonical : envelope (canonicalFields value) = envelope value := by
  simp [envelope, map_bind]

@[simp] theorem responders_canonical :
    responders host (canonicalFields value) = responders host value := by
  simp [responders, map_bind]

@[simp] theorem evidence_canonical : evidence (canonicalFields value) = evidence value := by
  simp [evidence, map_bind]

theorem readFields_canonical : readFields host (canonicalFields value) = readFields host value := by
  simp [readFields, map_bind]

/-- **Parsing does not see the order** of the fields. -/
theorem fromMapping_canonical :
    fromMapping host (canonicalFields value) = fromMapping host value := by
  have schema : standingAuthorizationSchema host (.object (canonicalFields value)) =
      standingAuthorizationSchema host (.object value) :=
    orderless_standingAuthorizationSchema host (.object value)
  unfold fromMapping
  rw [schema, readFields_canonical]

end

/-! ## Reading single fields -/

section

variable {host : Host} {value : Mapping} {key content : String}

theorem text_of_lookup (found : value.lookup key = some (.text content)) (isText : IsText content) :
    text value key = .ok content :=
  text_eq_ok.2 ⟨content, found, isText.1, isText.2⟩

theorem textTuple_of_lookup {contents : List String}
    (found : value.lookup key = some (.texts contents))
    (areTexts : ∀ content ∈ contents, IsText content) : textTuple value key = .ok contents := by
  refine textTuple_eq_ok.2 ⟨contents.map .text, found, mapM_eq_ok_iff.2 ?_⟩
  rw [List.forall₂_map_left_iff, List.forall₂_same]
  intro content isContent
  exact textEntry_eq_ok.2 ⟨content, rfl, areTexts content isContent⟩

theorem optionalText_of_lookup {contents : Option String}
    (found : value.lookup key = some (.optional contents))
    (areTexts : ∀ content ∈ contents, IsText content) : optionalText value key = .ok contents := by
  rcases contents with _ | content
  · unfold optionalText
    rw [found]
    rfl
  have isText := text_of_lookup found (areTexts content rfl)
  unfold optionalText
  rw [found, isText]
  rfl

theorem isSpace_of_isTimestampChar {c : Char} (isChar : isTimestampChar c = true) :
    isSpace c = false := by
  unfold isTimestampChar at isChar
  rw [Bool.or_eq_true] at isChar
  rcases isChar with digit | mark
  · refine isSpace_of_isNameChar ?_
    have code : 48 ≤ c.val ∧ c.val ≤ 57 := by simpa [Char.isDigit] using digit
    have bounds : '0' ≤ c ∧ c ≤ '9' := ⟨code.1, code.2⟩
    simp [isNameChar, isLowerAlphanumeric, bounds]
  have marks : (['-', 'T', ':', '.', '+'].all fun mark => !isSpace mark) = true := by decide
  have isMark := List.all_eq_true.1 marks c (of_decide_eq_true mark)
  rwa [Bool.not_eq_true'] at isMark

theorem instantText_chars (at_ : ℤ) : ∀ c ∈ (instantText at_).toList,
    c = 'Z' ∨ isTimestampChar c = true := by
  intro c isChar
  unfold instantText replaceChars at isChar
  rw [String.toList_ofList] at isChar
  rcases mem_replaceFrom isChar with isMark | isChar
  · exact .inl (List.mem_singleton.1 isMark)
  · exact .inr (isTimestampChar_isoformat at_ c isChar)

/-- **The mark of UTC** is replaced back. -/
theorem replaceChars_instantText (at_ : ℤ) :
    replaceChars "Z" "+00:00" (instantText at_) = isoformat at_ := by
  refine @replaceChars_back "+00:00" (isoformat at_) 'Z' (by decide) ?_
  intro isChar
  have isTimestamp := isTimestampChar_isoformat at_ 'Z' isChar
  exact absurd isTimestamp (by decide)

theorem isText_instantText (at_ : ℤ) : IsText (instantText at_) := by
  constructor
  · refine strip_of_noSpace fun c isChar => ?_
    rcases instantText_chars at_ c isChar with rfl | isTimestamp
    · decide
    · exact isSpace_of_isTimestampChar isTimestamp
  · intro empty
    have same := replaceChars_instantText at_
    rw [empty] at same
    have isEmpty : (isoformat at_).toList = [] := by
      rw [← same]
      rfl
    unfold isoformat at isEmpty
    simp [String.toList_append] at isEmpty

theorem instant_of_lookup (lawful : host.Lawful) {at_ : ℤ}
    (found : value.lookup key = some (.text (instantText at_))) (inRange : InDatetimeRange at_) :
    instant host value key = .ok at_ := by
  refine instant_eq_ok.2 ⟨_, text_of_lookup found (isText_instantText at_), ?_, inRange⟩
  rw [replaceChars_instantText]
  exact lawful.readsBack at_ inRange

theorem isText_of_isSpaceless (spaceless : isSpaceless content = true)
    (nonempty : content ≠ "") : IsText content :=
  ⟨strip_of_isSpaceless spaceless, nonempty⟩

@[simp] theorem authorizationStatus_value (status : AuthorizationStatus) :
    authorizationStatus status.value = .ok status := by
  cases status <;> rfl

@[simp] theorem authorizationMode_value (mode : AuthorizationMode) :
    authorizationMode mode.value = .ok mode := by
  cases mode
  rfl

@[simp] theorem approverRole_value (role : ApproverRole) : approverRole role.value = .ok role := by
  cases role <;> rfl

@[simp] theorem scopeLevel_value (level : ScopeLevel) : scopeLevel level.value = .ok level := by
  cases level <;> rfl

theorem isText_status (status : AuthorizationStatus) : IsText status.value := by
  refine isText_of_isSpaceless ?_ ?_
  · cases status <;> decide
  · cases status <;> decide

theorem isText_mode (mode : AuthorizationMode) : IsText mode.value :=
  isText_of_isSpaceless (by cases mode; decide) (by cases mode; decide)

theorem isText_role (role : ApproverRole) : IsText role.value := by
  refine isText_of_isSpaceless ?_ ?_
  · cases role <;> decide
  · cases role <;> decide

theorem isText_level (level : ScopeLevel) : IsText level.value := by
  refine isText_of_isSpaceless ?_ ?_
  · cases level <;> decide
  · cases level <;> decide

theorem isText_profile (profile : ApprovalProfile) : IsText profile.value := by
  refine isText_of_isSpaceless ?_ ?_
  · cases profile <;> decide
  · cases profile <;> decide

end

/-! ## Reading the parts -/

section

variable {host : Host} {value : Mapping}

/-- **The roles** that are claimed. -/
theorem approvalRoles_claim {approval : Approval} (admitted : AdmittedApproval approval) :
    approvalRoles (approvalClaim approval) = .ok approval.roles := by
  obtain ⟨principal, roles, approvedAt⟩ := approval
  have some_ := admitted.roles
  unfold approvalClaim approvalRoles
  match roles with
  | [] => exact absurd rfl some_
  | [role] =>
    show (do
      let raw ← text _ "role"
      let role ← approverRole raw
      pure [role]) = _
    rw [text_of_lookup rfl (isText_role role)]
    show (approverRole role.value >>= fun role => pure [role]) = _
    rw [approverRole_value]
    rfl
  | first :: second :: rest =>
    show (((first :: second :: rest).map ApproverRole.value).map Json.text).mapM _ = _
    rw [List.map_map, mapM_eq_ok_iff, List.forall₂_map_left_iff, List.forall₂_same]
    intro role _
    refine bind_eq_ok.2 ⟨role.value, ?_, approverRole_value role⟩
    exact textEntry_eq_ok.2 ⟨role.value, rfl, (isText_role role).1, (isText_role role).2⟩

theorem approval_claim (lawful : host.Lawful) {read : Approval} (admitted : AdmittedApproval read) :
    approval host (approvalClaim read) = .ok read := by
  refine bind_eq_ok.2 ⟨_, text_of_lookup rfl admitted.principal, ?_⟩
  refine bind_eq_ok.2 ⟨_, approvalRoles_claim admitted, ?_⟩
  exact bind_eq_ok.2 ⟨_, instant_of_lookup lawful rfl admitted.approvedAt, rfl⟩

theorem scope_of_lookup {read : AuthorizationScope}
    (found : value.lookup "scope" = some (scopeClaims read)) (isText : IsText read.value) :
    scope value = .ok read := by
  refine bind_eq_ok.2 ⟨_, mapping_eq_ok.2 found, ?_⟩
  refine bind_eq_ok.2 ⟨_, text_of_lookup rfl (isText_level read.level), ?_⟩
  refine bind_eq_ok.2 ⟨_, scopeLevel_value read.level, ?_⟩
  exact bind_eq_ok.2 ⟨_, text_of_lookup rfl isText, rfl⟩

theorem isText_actionVersion (lawful : host.Lawful) {pins : AuthorizationPins}
    (admitted : AdmittedPins host pins) : ∀ version ∈ pins.actionTypeVersions, IsText version :=
  fun version isVersion => isText_of_core (isActionVersion_spaceless lawful)
    (admitted.actionTypeVersions version isVersion)

theorem pins_of_lookup (lawful : host.Lawful) {read : AuthorizationPins}
    (found : value.lookup "pins" = some (pinsClaims read)) (admitted : AdmittedPins host read) :
    pins value = .ok read := by
  refine bind_eq_ok.2 ⟨_, mapping_eq_ok.2 found, ?_⟩
  refine bind_eq_ok.2 ⟨_, text_of_lookup rfl admitted.policyDigest, ?_⟩
  refine bind_eq_ok.2 ⟨_, text_of_lookup rfl admitted.targetRevision, ?_⟩
  refine bind_eq_ok.2 ⟨_, textTuple_of_lookup rfl (isText_actionVersion lawful admitted), ?_⟩
  exact bind_eq_ok.2 ⟨_, textTuple_of_lookup rfl admitted.evidenceRevisions, rfl⟩

theorem isText_rollback {contract : String} (isContract : contract ∈ rollbackValues) :
    IsText contract := by
  have spaceless : ∀ value ∈ rollbackValues, isSpaceless value = true := by decide
  have nonempty : ∀ value ∈ rollbackValues, value ≠ "" := by decide
  exact isText_of_isSpaceless (spaceless contract isContract) (nonempty contract isContract)

theorem envelope_of_lookup {read : AuthorizationEnvelope}
    (found : value.lookup "envelope" = some (envelopeClaims read))
    (admitted : AdmittedEnvelope read) : envelope value = .ok read := by
  refine bind_eq_ok.2 ⟨_, mapping_eq_ok.2 found, ?_⟩
  refine bind_eq_ok.2 ⟨_, textTuple_of_lookup rfl admitted.actionTypes.2, ?_⟩
  refine bind_eq_ok.2 ⟨_, integer_eq_ok.2 rfl, ?_⟩
  refine bind_eq_ok.2 ⟨_, integer_eq_ok.2 rfl, ?_⟩
  refine bind_eq_ok.2 ⟨_, boolean_eq_ok.2 rfl, ?_⟩
  refine bind_eq_ok.2 ⟨_, text_of_lookup rfl (isText_rollback admitted.rollbackContract), ?_⟩
  exact bind_eq_ok.2 ⟨_, textTuple_of_lookup rfl admitted.stopConditions.2, rfl⟩

theorem responders_of_lookup (lawful : host.Lawful) {read : Responders}
    (found : value.lookup "responders" = some (respondersClaims read))
    (admitted : AdmittedResponders read) : responders host value = .ok read := by
  refine bind_eq_ok.2 ⟨_, mapping_eq_ok.2 found, ?_⟩
  refine bind_eq_ok.2 ⟨_, text_of_lookup rfl admitted.primary, ?_⟩
  refine bind_eq_ok.2 ⟨_, text_of_lookup rfl admitted.backup, ?_⟩
  exact bind_eq_ok.2 ⟨_, instant_of_lookup lawful rfl admitted.confirmedAt, rfl⟩

/-- **The profile** and the operator that are claimed. -/
theorem profile_document (fields : AuthorizationFields) :
    approvalProfile (authorizationDocument fields) = .ok fields.approvalProfile := by
  have found : (authorizationDocument fields).lookup "approval_profile" =
      (profileClaims fields).lookup "approval_profile" := rfl
  unfold approvalProfile
  rw [found]
  unfold profileClaims
  cases isProfile : fields.approvalProfile with
  | multiOperator => rfl
  | singleOperatorProduction =>
    have profile : (authorizationDocument fields).lookup "approval_profile" =
        some (.text ApprovalProfile.singleOperatorProduction.value) := by
      rw [found]
      unfold profileClaims
      rw [isProfile]
      rfl
    exact bind_eq_ok.2 ⟨_, text_of_lookup profile (isText_profile _), rfl⟩

/-- What a constructor's check says of the operator of several. -/
theorem operator_of_check {fields : AuthorizationFields} (passed : fields.check = .ok ())
    (several : fields.approvalProfile = .multiOperator) : fields.operatorPrincipal = none ∧
      (∀ approval ∈ fields.approvals, approval.roles.length = 1) ∧ 2 ≤ fields.quorumRequired := by
  have rules := (check_bind_eq_ok.1 passed).2
  rw [several] at rules
  simpa using rules

theorem operator_of_single {fields : AuthorizationFields} (passed : fields.check = .ok ())
    (single : fields.approvalProfile = .singleOperatorProduction) :
    (∃ operator, fields.operatorPrincipal = some operator) ∧ fields.quorumRequired = 1 := by
  have rules := (check_bind_eq_ok.1 passed).2
  rw [single] at rules
  simpa [Option.isSome_iff_exists] using rules

theorem operator_document {fields : AuthorizationFields} (passed : fields.check = .ok ())
    (areTexts : ∀ operator ∈ fields.operatorPrincipal, IsText operator) :
    optionalText (authorizationDocument fields) "operator_principal" =
      .ok fields.operatorPrincipal := by
  have found : (authorizationDocument fields).lookup "operator_principal" =
      (profileClaims fields).lookup "operator_principal" := rfl
  cases isProfile : fields.approvalProfile with
  | multiOperator =>
    unfold optionalText
    rw [found, (operator_of_check passed isProfile).1]
    unfold profileClaims
    rw [isProfile]
    rfl
  | singleOperatorProduction =>
    refine optionalText_of_lookup (found.trans ?_) areTexts
    unfold profileClaims
    rw [isProfile]
    rfl

theorem approvals_document (lawful : host.Lawful) {fields : AuthorizationFields}
    (admitted : ∀ approval ∈ fields.approvals, AdmittedApproval approval) :
    (fields.approvals.map approvalClaim).mapM (approval host) = .ok fields.approvals := by
  rw [mapM_eq_ok_iff, List.forall₂_map_left_iff, List.forall₂_same]
  exact fun read isRead => approval_claim lawful (admitted read isRead)

/-- **The fields** of the document of a record. -/
theorem readFields_document (lawful : host.Lawful) {fields : AuthorizationFields}
    (passed : fields.check = .ok ()) (admitted : Admitted host fields)
    (revised : IsText fields.authorizationRevision) :
    readFields host (authorizationDocument fields) = .ok fields := by
  have version := isText_of_core (isVersion_spaceless lawful) admitted.schemaVersion
  have id := isText_of_core isAuthorizationId_spaceless admitted.id
  have items : sequence (authorizationDocument fields) "approvals" =
      .ok (fields.approvals.map approvalClaim) := by
    rw [sequence_eq_ok, List.map_map]
    rfl
  have approvals := approvals_document lawful admitted.approvals
  have operator := operator_document passed admitted.operatorPrincipal
  refine bind_eq_ok.2 ⟨_, text_of_lookup rfl version, ?_⟩
  refine bind_eq_ok.2 ⟨_, text_of_lookup rfl id, ?_⟩
  refine bind_eq_ok.2 ⟨_, text_of_lookup rfl revised, ?_⟩
  refine bind_eq_ok.2 ⟨_, profile_document fields, ?_⟩
  refine bind_eq_ok.2 ⟨_, operator, ?_⟩
  refine bind_eq_ok.2 ⟨_, text_of_lookup rfl (isText_status fields.status), ?_⟩
  refine bind_eq_ok.2 ⟨_, authorizationStatus_value fields.status, ?_⟩
  refine bind_eq_ok.2 ⟨_, text_of_lookup rfl (isText_mode fields.mode), ?_⟩
  refine bind_eq_ok.2 ⟨_, authorizationMode_value fields.mode, ?_⟩
  refine bind_eq_ok.2 ⟨_, text_of_lookup rfl admitted.requestedBy, ?_⟩
  refine bind_eq_ok.2 ⟨_, items, ?_⟩
  refine bind_eq_ok.2 ⟨_, approvals, ?_⟩
  refine bind_eq_ok.2 ⟨_, integer_eq_ok.2 rfl, ?_⟩
  refine bind_eq_ok.2 ⟨_, instant_of_lookup lawful rfl admitted.validFrom, ?_⟩
  refine bind_eq_ok.2 ⟨_, instant_of_lookup lawful rfl admitted.validUntil, ?_⟩
  refine bind_eq_ok.2 ⟨_, text_of_lookup rfl admitted.serviceRef, ?_⟩
  refine bind_eq_ok.2 ⟨_, scope_of_lookup rfl admitted.scope, ?_⟩
  refine bind_eq_ok.2 ⟨_, pins_of_lookup lawful rfl admitted.pins, ?_⟩
  refine bind_eq_ok.2 ⟨_, envelope_of_lookup rfl admitted.envelope, ?_⟩
  refine bind_eq_ok.2 ⟨_, textTuple_of_lookup rfl admitted.incidentClasses.2, ?_⟩
  refine bind_eq_ok.2 ⟨_, responders_of_lookup lawful rfl admitted.responders, ?_⟩
  refine bind_eq_ok.2 ⟨fields.evidence, ?_, rfl⟩
  refine bind_eq_ok.2 ⟨_, mapping_eq_ok.2 rfl, ?_⟩
  refine bind_eq_ok.2 ⟨_, boolean_eq_ok.2 rfl, ?_⟩
  refine bind_eq_ok.2 ⟨_, optionalText_of_lookup rfl admitted.evidence.precedentRef, ?_⟩
  exact bind_eq_ok.2 ⟨_, optionalText_of_lookup rfl admitted.evidence.scenarioEvidenceRef, rfl⟩

end

/-! ## The schema accepts the document -/

section

variable {host : Host} {content : String} {contents : List String}

theorem nonEmptyText_of_isText (isText : IsText content) : nonEmptyText (.text content) = true := by
  have long : 1 ≤ content.length := by
    rw [Nat.one_le_iff_ne_zero, ne_eq, String.length_eq_zero_iff]
    exact isText.2
  exact allOf_cons.2 ⟨rfl, allOf_cons.2 ⟨decide_eq_true long, rfl⟩⟩

theorem textEnum_of_mem {values : List String} (isValue : content ∈ values) :
    textEnum values (.text content) = true :=
  allOf_cons.2 ⟨rfl, allOf_cons.2 ⟨decide_eq_true isValue, rfl⟩⟩

theorem pattern_of_core {core : List Char → Bool} (matched : core content.toList = true) :
    allOf [ofType .string, pattern (anchored core)] (.text content) = true := by
  have found : anchored core content = true := by
    unfold anchored
    rw [matched, Bool.true_or]
  exact allOf_cons.2 ⟨rfl, allOf_cons.2 ⟨found, rfl⟩⟩

theorem items_texts {check : Check} (each : ∀ content ∈ contents, check (.text content) = true) :
    Check.items check (.texts contents) = true := by
  show (contents.map Json.text).all check = true
  rw [List.all_map, List.all_eq_true]
  exact each

theorem minItems_texts (nonempty : contents ≠ []) : minItems 1 (.texts contents) = true := by
  show decide (1 ≤ (contents.map Json.text).length) = true
  rw [List.length_map, decide_eq_true_eq]
  exact List.length_pos_of_ne_nil nonempty

theorem textItems_texts (areTexts : ∀ content ∈ contents, IsText content) :
    allOf textItems (.texts contents) = true := by
  have each := items_texts fun content isContent => nonEmptyText_of_isText (areTexts content isContent)
  exact allOf_cons.2 ⟨rfl, allOf_cons.2 ⟨each, rfl⟩⟩

theorem textItems_of_isTextList (isTextList : IsTextList contents) :
    allOf (minItems 1 :: textItems) (.texts contents) = true :=
  allOf_cons.2 ⟨minItems_texts isTextList.1, textItems_texts isTextList.2⟩

theorem optional_accepted (value : Option String) :
    anyOf [ofType .string, ofType .null] (.optional value) = true := by
  cases value <;> rfl

theorem atLeast_accepted {least number : ℤ} (bounded : least ≤ number) :
    allOf [ofType .integer, minimum least] (.int number) = true :=
  allOf_cons.2 ⟨rfl, allOf_cons.2 ⟨decide_eq_true bounded, rfl⟩⟩

theorem scope_accepted {scope : AuthorizationScope} (isText : IsText scope.value) :
    scopeSchema (scopeClaims scope) = true := by
  have level : scope.level.value ∈ ["resource", "resource_group"] := by
    cases scope.level <;> decide
  refine closedObject_of_names (by simp) (by simp) ?_
  simp only [List.forall_mem_cons]
  refine ⟨?_, ?_, List.forall_mem_nil _⟩
  · exact checked_of_lookup rfl (textEnum_of_mem level)
  · exact checked_of_lookup rfl (nonEmptyText_of_isText isText)

theorem pins_accepted {pins : AuthorizationPins} (admitted : AdmittedPins host pins) :
    pinsSchema host (pinsClaims pins) = true := by
  refine closedObject_of_names (by simp) (by simp) ?_
  simp only [List.forall_mem_cons]
  refine ⟨?_, ?_, ?_, ?_, List.forall_mem_nil _⟩
  · exact checked_of_lookup rfl (nonEmptyText_of_isText admitted.policyDigest)
  · exact checked_of_lookup rfl (nonEmptyText_of_isText admitted.targetRevision)
  · refine checked_of_lookup rfl (allOf_cons.2 ⟨rfl, allOf_cons.2 ⟨?_, allOf_cons.2 ⟨?_, rfl⟩⟩⟩)
    · exact minItems_texts admitted.versioned
    · exact items_texts fun version isVersion =>
        pattern_of_core (admitted.actionTypeVersions version isVersion)
  · exact checked_of_lookup rfl (textItems_texts admitted.evidenceRevisions)

theorem envelope_accepted {envelope : AuthorizationEnvelope} (admitted : AdmittedEnvelope envelope) :
    envelopeSchema (envelopeClaims envelope) = true := by
  refine closedObject_of_names (by simp) (by simp) ?_
  simp only [List.forall_mem_cons]
  refine ⟨?_, ?_, ?_, ?_, ?_, ?_, List.forall_mem_nil _⟩
  · exact checked_of_lookup rfl (textItems_of_isTextList admitted.actionTypes)
  · exact checked_of_lookup rfl (atLeast_accepted admitted.maxBlastRadius)
  · exact checked_of_lookup rfl (atLeast_accepted admitted.maxDurationSeconds)
  · exact checked_of_lookup rfl rfl
  · exact checked_of_lookup rfl (textEnum_of_mem admitted.rollbackContract)
  · exact checked_of_lookup rfl (textItems_of_isTextList admitted.stopConditions)

theorem responders_accepted {responders : Responders} (admitted : AdmittedResponders responders) :
    respondersSchema (respondersClaims responders) = true := by
  refine closedObject_of_names (by simp) (by simp) ?_
  simp only [List.forall_mem_cons]
  refine ⟨?_, ?_, ?_, List.forall_mem_nil _⟩
  · exact checked_of_lookup rfl (nonEmptyText_of_isText admitted.primary)
  · exact checked_of_lookup rfl (nonEmptyText_of_isText admitted.backup)
  · exact checked_of_lookup rfl rfl

theorem roles_accepted {roles : List ApproverRole} (nonempty : roles ≠ [])
    (distinct : roles.Nodup) :
    allOf [ofType .array, minItems 1, uniqueItems, Check.items (textEnum roleValues)]
      (.texts (roles.map ApproverRole.value)) = true := by
  have injective : Function.Injective (Json.text ∘ ApproverRole.value) := by
    intro a b
    cases a <;> cases b <;> simp [ApproverRole.value]
  have unique : uniqueItems (.texts (roles.map ApproverRole.value)) = true := by
    show decide (canonicalItems ((roles.map ApproverRole.value).map Json.text)).Nodup = true
    rw [Json.canonicalItems_eq_map, List.map_map, List.map_map, decide_eq_true_eq]
    exact distinct.map injective
  have known : ∀ content ∈ roles.map ApproverRole.value, content ∈ roleValues := by
    intro content isContent
    obtain ⟨role, -, rfl⟩ := List.mem_map.1 isContent
    cases role <;> decide
  have each := items_texts fun content isContent => textEnum_of_mem (known content isContent)
  refine allOf_cons.2 ⟨rfl, allOf_cons.2 ⟨?_, ?_⟩⟩
  · exact minItems_texts (by simpa using nonempty)
  · exact allOf_cons.2 ⟨unique, allOf_cons.2 ⟨each, rfl⟩⟩

/-- The claim of an approval, whose roles stand in one field or the other. -/
theorem approval_accepted {approval : Approval} (admitted : AdmittedApproval approval) :
    approvalSchema (.object (approvalClaim approval)) = true := by
  obtain ⟨principal, roles, approvedAt⟩ := approval
  have isText := nonEmptyText_of_isText admitted.principal
  have isRole (role : ApproverRole) : role.value ∈ roleValues := by
    cases role <;> decide
  match roles with
  | [] => exact absurd rfl admitted.roles
  | [role] =>
    refine allOf_cons.2 ⟨?_, allOf_cons.2 ⟨rfl, rfl⟩⟩
    refine closedObject_of_names (by simp [approvalClaim]) (by simp [approvalClaim]) ?_
    simp only [List.forall_mem_cons]
    refine ⟨?_, ?_, ?_, ?_, List.forall_mem_nil _⟩
    · exact checked_of_lookup rfl isText
    · exact checked_of_lookup rfl (textEnum_of_mem (isRole role))
    · exact fun _ found => by cases found
    · exact checked_of_lookup rfl rfl
  | first :: second :: rest =>
    refine allOf_cons.2 ⟨?_, allOf_cons.2 ⟨rfl, rfl⟩⟩
    refine closedObject_of_names (by simp [approvalClaim]) (by simp [approvalClaim]) ?_
    simp only [List.forall_mem_cons]
    refine ⟨?_, ?_, ?_, ?_, List.forall_mem_nil _⟩
    · exact checked_of_lookup rfl isText
    · exact fun _ found => by cases found
    · exact checked_of_lookup rfl (roles_accepted admitted.roles admitted.distinct)
    · exact checked_of_lookup rfl rfl

theorem evidence_accepted (evidence : AuthorizationEvidence) : evidenceSchema (.object [
      ("history_reviewed", .bool evidence.historyReviewed),
      ("precedent_ref", .optional evidence.precedentRef),
      ("scenario_evidence_ref", .optional evidence.scenarioEvidenceRef)]) = true := by
  refine closedObject_of_names (by simp) (by simp) ?_
  simp only [List.forall_mem_cons]
  refine ⟨?_, ?_, ?_, List.forall_mem_nil _⟩
  · exact checked_of_lookup rfl rfl
  · exact checked_of_lookup rfl (optional_accepted evidence.precedentRef)
  · exact checked_of_lookup rfl (optional_accepted evidence.scenarioEvidenceRef)

theorem single_accepted {approval : Approval} (single : approval.roles.length = 1) :
    allOf [required ["role"], refuses (required ["roles"])] (.object (approvalClaim approval)) =
      true := by
  obtain ⟨role, isRole⟩ := List.length_eq_one_iff.1 single
  unfold approvalClaim
  rw [isRole]
  rfl

theorem approvals_accepted {fields : AuthorizationFields} (admitted : Admitted host fields) :
    allOf [ofType .array, minItems 1, Check.items approvalSchema] (approvalClaims fields) = true := by
  refine allOf_cons.2 ⟨rfl, allOf_cons.2 ⟨?_, allOf_cons.2 ⟨?_, rfl⟩⟩⟩
  · show decide (1 ≤ (fields.approvals.map _).length) = true
    rw [List.length_map, decide_eq_true_eq]
    exact List.length_pos_of_ne_nil admitted.approved
  · show (fields.approvals.map fun approval => Json.object (approvalClaim approval)).all _ = true
    rw [List.all_map, List.all_eq_true]
    exact fun approval isApproval => approval_accepted (admitted.approvals approval isApproval)

/-- The names of a document are declared, and none that is asked for is missing. -/
theorem names_document (fields : AuthorizationFields) :
    (∀ field ∈ authorizationDocument fields, field.1 ∈ (declaredFields host).map Prod.fst) ∧
      ∀ name ∈ requiredNames, name ∈ (authorizationDocument fields).map Prod.fst := by
  have profile : ∀ field ∈ profileClaims fields, field.1 ∈ (declaredFields host).map Prod.fst := by
    unfold profileClaims
    cases fields.approvalProfile <;> simp [declaredFields]
  constructor
  · unfold authorizationDocument
    rw [List.forall_mem_append]
    exact ⟨by simp [declaredFields], profile⟩
  · unfold authorizationDocument
    simp [requiredNames]

theorem profileFields_accepted {fields : AuthorizationFields} (passed : fields.check = .ok ())
    (operatorPrincipal : ∀ operator ∈ fields.operatorPrincipal, IsText operator) :
    (∀ json ∈ (profileClaims fields).lookup "approval_profile",
      textEnum ["multi-operator", "single-operator-production"] json = true) ∧
    ∀ json ∈ (profileClaims fields).lookup "operator_principal", nonEmptyText json = true := by
  unfold profileClaims
  cases isProfile : fields.approvalProfile with
  | multiOperator => exact ⟨fun _ found => (by cases found), fun _ found => (by cases found)⟩
  | singleOperatorProduction =>
    obtain ⟨operator, isOperator⟩ := (operator_of_single passed isProfile).1
    rw [isOperator]
    constructor
    · exact checked_of_lookup rfl (textEnum_of_mem (by decide))
    · exact checked_of_lookup rfl (nonEmptyText_of_isText (operatorPrincipal _ isOperator))

/-- **What is declared** of each field. -/
theorem fields_accepted {fields : AuthorizationFields}
    (passed : fields.check = .ok ()) (admitted : Admitted host fields)
    (revised : IsText fields.authorizationRevision) :
    closedObject requiredNames (declaredFields host) (.object (authorizationDocument fields)) =
      true := by
  obtain ⟨profile, operator⟩ := profileFields_accepted passed admitted.operatorPrincipal
  have status : fields.status.value ∈ ["active", "revoked", "expired", "superseded"] := by
    cases fields.status <;> decide
  have mode : fields.mode.value ∈ ["shadow"] := by
    cases fields.mode
    decide
  have quorum : 1 ≤ fields.quorumRequired := by
    cases isProfile : fields.approvalProfile with
    | multiOperator => exact Int.le_trans (by decide) (operator_of_check passed isProfile).2.2
    | singleOperatorProduction => exact (operator_of_single passed isProfile).2.ge
  obtain ⟨known, needed⟩ := @names_document host fields
  refine closedObject_of_names known needed ?_
  unfold declaredFields
  simp only [List.forall_mem_cons]
  refine ⟨?_, ?_, ?_, profile, operator, ?_, ?_, ?_, ?_, ?_, ?_, ?_, ?_, ?_, ?_, ?_, ?_, ?_, ?_,
    List.forall_mem_nil _⟩
  · exact checked_of_lookup rfl (pattern_of_core admitted.schemaVersion)
  · exact checked_of_lookup rfl (pattern_of_core admitted.id)
  · exact checked_of_lookup rfl (nonEmptyText_of_isText revised)
  · exact checked_of_lookup rfl (textEnum_of_mem status)
  · exact checked_of_lookup rfl (textEnum_of_mem mode)
  · exact checked_of_lookup rfl (nonEmptyText_of_isText admitted.requestedBy)
  · exact checked_of_lookup rfl (approvals_accepted admitted)
  · exact checked_of_lookup rfl (atLeast_accepted quorum)
  · exact checked_of_lookup rfl rfl
  · exact checked_of_lookup rfl rfl
  · exact checked_of_lookup rfl (nonEmptyText_of_isText admitted.serviceRef)
  · exact checked_of_lookup rfl (scope_accepted admitted.scope)
  · exact checked_of_lookup rfl (pins_accepted admitted.pins)
  · exact checked_of_lookup rfl (envelope_accepted admitted.envelope)
  · exact checked_of_lookup rfl (textItems_of_isTextList admitted.incidentClasses)
  · exact checked_of_lookup rfl (responders_accepted admitted.responders)
  · exact checked_of_lookup rfl (evidence_accepted fields.evidence)

theorem profile_accepted {fields : AuthorizationFields} (passed : fields.check = .ok ())
    (admitted : Admitted host fields) :
    allOf profileRules (.object (authorizationDocument fields)) = true := by
  have approvals : (authorizationDocument fields).lookup "approvals" =
    some (approvalClaims fields) := rfl
  have quorum : (authorizationDocument fields).lookup "quorum_required" =
    some (.int fields.quorumRequired) := rfl
  have profile : (authorizationDocument fields).lookup "approval_profile" =
    (profileClaims fields).lookup "approval_profile" := rfl
  have operator : (authorizationDocument fields).lookup "operator_principal" =
    (profileClaims fields).lookup "operator_principal" := rfl
  cases isProfile : fields.approvalProfile with
  | multiOperator =>
    have noProfile : profileClaims fields = [] := by
      unfold profileClaims
      rw [isProfile]
    rw [noProfile] at profile operator
    obtain ⟨-, single, two⟩ := operator_of_check passed isProfile
    have many : minItems 2 (approvalClaims fields) = true := by
      show decide (2 ≤ (fields.approvals.map _).length) = true
      rw [List.length_map, decide_eq_true_eq]
      exact admitted.severally isProfile
    have each : Check.items (allOf [required ["role"], refuses (required ["roles"])])
        (approvalClaims fields) = true := by
      show (fields.approvals.map fun approval => Json.object (approvalClaim approval)).all _ = true
      rw [List.all_map, List.all_eq_true]
      exact fun approval isApproval => single_accepted (single approval isApproval)
    have both := allOf_cons.2 ⟨many, allOf_cons.2 ⟨each, allOf_nil⟩⟩
    have bounded : minimum 2 (.int fields.quorumRequired) = true := decide_eq_true two
    replace profile : (authorizationDocument fields).lookup "approval_profile" = none := profile
    replace operator : (authorizationDocument fields).lookup "operator_principal" = none := operator
    refine allOf_cons.2 ⟨?_, allOf_cons.2 ⟨?_, rfl⟩⟩
    · show (!_ || allOf _ _) = true
      rw [Bool.or_eq_true]
      refine .inr (allOf_cons.2 ⟨?_, allOf_cons.2 ⟨?_, rfl⟩⟩)
      · unfold refuses
        rw [required_one, operator]
        rfl
      · simp [properties, approvals, quorum, both, bounded]
    · have unnamed : required ["approval_profile"] (.object (authorizationDocument fields)) =
          false := by
        rw [required_one, profile]
        rfl
      show (!(required ["approval_profile"] _ && _) || _) = true
      rw [unnamed]
      rfl
  | singleOperatorProduction =>
    obtain ⟨⟨name, isName⟩, one⟩ := operator_of_single passed isProfile
    have both : profileClaims fields = [
        ("approval_profile", .text ApprovalProfile.singleOperatorProduction.value),
        ("operator_principal", .optional (some name))] := by
      unfold profileClaims
      rw [isProfile, isName]
    rw [both] at profile operator
    replace profile : (authorizationDocument fields).lookup "approval_profile" =
      some (.text ApprovalProfile.singleOperatorProduction.value) := profile
    replace operator : (authorizationDocument fields).lookup "operator_principal" =
      some (.text name) := operator
    simp [profileRules, severalOperators, ifThen, anyOf, allOf, refuses, required, properties,
      profile, operator, quorum, constText, enum, constInt, one, ApprovalProfile.value]

/-- **The document of a record** is accepted, and parsed to it. -/
theorem fromMapping_document (lawful : host.Lawful) (authorization : StandingAuthorization)
    (admitted : Admitted host authorization.val)
    (revised : IsText authorization.val.authorizationRevision) :
    fromMapping host (authorizationDocument authorization.val) = .ok authorization := by
  have accepted : standingAuthorizationSchema host
      (.object (authorizationDocument authorization.val)) = true :=
    allOf_cons.2 ⟨fields_accepted authorization.2 admitted revised,
      allOf_cons.2 ⟨profile_accepted authorization.2 admitted, rfl⟩⟩
  refine check_bind_eq_ok.2 ⟨validate_cons_eq_ok.2 ⟨accepted, rfl⟩, ?_⟩
  refine bind_eq_ok.2 ⟨_, readFields_document lawful authorization.2 admitted revised, ?_⟩
  exact construct_eq_ok.2 rfl

end

end Fdai.Core.StandingRecords
