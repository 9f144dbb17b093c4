import Fdai.Providers.Contracts

/-!
# Full-authority development profile

Fail-closed admission of an action under the development profile: the profile, the fresh
confirmation of its owner and the verified binding of the exact action have to agree.

* `Supplied` — evidence as it is handed in; what does not parse is malformed.
* `evaluateDevelopmentAuthority` — the checks in order, each with its reason code.
* `resolveDevelopmentBinding` — the current binding, from the deployment's own source.

Times of parsed records are aware, so they are instants. What the constructors of the
records check besides is not repeated here: the evaluator does not rely on it.
-/

namespace Fdai.Core

open Fdai.Providers (Digest)

/-- Evidence as supplied: a record, or something that is none. -/
inductive Supplied (α : Type) where
  | parsed (record : α)
  | malformed

/-! ## Records -/

structure DevelopmentAuthorityScope where
  tenantDigest : Digest
  subscriptionDigest : Digest
  resourceGroupDigests : List Digest := []
  deriving DecidableEq

/-- `covers`: no group on the left means every group. -/
def DevelopmentAuthorityScope.covers (scope requested : DevelopmentAuthorityScope) : Bool :=
  if scope.tenantDigest ≠ requested.tenantDigest ||
      scope.subscriptionDigest ≠ requested.subscriptionDigest then false
  else if scope.resourceGroupDigests ≠ [] && requested.resourceGroupDigests = [] then false
  else scope.resourceGroupDigests = [] ||
    requested.resourceGroupDigests.all (· ∈ scope.resourceGroupDigests)

structure RegisteredDevelopmentAction where
  actionType : String
  version : String
  actionTypeDigest : Digest
  deriving DecidableEq

/-- Maximum authority for one disposable test scope. -/
structure FullAuthorityDevelopmentProfile where
  profileId : String
  scope : DevelopmentAuthorityScope
  ownerPrincipal : String
  executorPrincipal : String
  validFrom : ℤ
  validUntil : ℤ
  sourceRevision : String
  catalogRevision : String
  policyRevision : String
  registeredActions : List RegisteredDevelopmentAction
  nonempty : validFrom < validUntil
  deriving DecidableEq

structure DevelopmentActionSafeguards where
  stopConditionDigest : Digest
  rollbackContractDigest : Digest
  rollbackTestDigest : Digest
  blastRadiusDigest : Digest
  logicalTargetLockDigest : Digest
  idempotencyKey : String
  auditContractDigest : Digest
  observerPrincipal : String
  observerSourceDigest : Digest
  deriving DecidableEq

/-- The exact action and safety material that is confirmed. -/
structure DevelopmentActionBinding where
  actionType : String
  actionTypeVersion : String
  actionTypeDigest : Digest
  actionId : String
  targetDigest : Digest
  targetRevision : String
  scope : DevelopmentAuthorityScope
  sourceRevision : String
  catalogRevision : String
  policyRevision : String
  paramsDigest : Digest
  actionDigest : Digest
  dryRunDigest : Digest
  requesterPrincipal : String
  executorPrincipal : String
  safeguards : DevelopmentActionSafeguards
  deriving DecidableEq

/-- A trusted source's verification of a binding. -/
structure DevelopmentBindingVerification where
  binding : DevelopmentActionBinding
  sourceId : String
  sourceRevision : String
  verificationReceiptDigest : Digest
  verifiedAt : ℤ
  expiresAt : ℤ
  nonempty : verifiedAt < expiresAt
  deriving DecidableEq

/-- The owner's confirmation of one binding. -/
structure DevelopmentActionConfirmation where
  confirmationId : String
  profileDigest : Digest
  binding : DevelopmentActionBinding
  authenticatedPrincipal : String
  authenticationEvidenceDigest : Digest
  authenticatedAt : ℤ
  confirmedBy : String
  confirmedAt : ℤ
  expiresAt : ℤ
  ordered : authenticatedAt ≤ confirmedAt ∧ confirmedAt < expiresAt

/-- The derived admission record. -/
structure DevelopmentAuthorityGrant where
  profileId : String
  profileDigest : Digest
  confirmationId : String
  confirmationDigest : Digest
  actionBindingDigest : Digest
  bindingVerificationDigest : Digest
  ownerPrincipal : String
  executorPrincipal : String
  originalQuorum : ℤ
  validUntil : ℤ
  deriving DecidableEq

def DevelopmentAuthorityScope.digest (s : DevelopmentAuthorityScope) : Digest :=
  .ofFields [s.tenantDigest, s.subscriptionDigest, .ofFields s.resourceGroupDigests]

def RegisteredDevelopmentAction.digest (r : RegisteredDevelopmentAction) : Digest :=
  .ofFields [.text r.actionType, .text r.version, r.actionTypeDigest]

def FullAuthorityDevelopmentProfile.digest (p : FullAuthorityDevelopmentProfile) : Digest :=
  .ofFields [.text "profile", .text p.profileId, p.scope.digest, .text p.ownerPrincipal,
    .text p.executorPrincipal, instantDigest p.validFrom, instantDigest p.validUntil,
    .text p.sourceRevision, .text p.catalogRevision, .text p.policyRevision,
    .ofFields (p.registeredActions.map (·.digest))]

def DevelopmentActionSafeguards.digest (s : DevelopmentActionSafeguards) : Digest :=
  .ofFields [s.stopConditionDigest, s.rollbackContractDigest, s.rollbackTestDigest,
    s.blastRadiusDigest, s.logicalTargetLockDigest, .text s.idempotencyKey,
    s.auditContractDigest, .text s.observerPrincipal, s.observerSourceDigest]

def DevelopmentActionBinding.digest (b : DevelopmentActionBinding) : Digest :=
  .ofFields [.text "binding", .text b.actionType, .text b.actionTypeVersion,
    b.actionTypeDigest, .text b.actionId, b.targetDigest, .text b.targetRevision,
    b.scope.digest, .text b.sourceRevision, .text b.catalogRevision, .text b.policyRevision,
    b.paramsDigest, b.actionDigest, b.dryRunDigest, .text b.requesterPrincipal,
    .text b.executorPrincipal, b.safeguards.digest]

def DevelopmentBindingVerification.digest (v : DevelopmentBindingVerification) : Digest :=
  .ofFields [.text "verification", v.binding.digest, .text v.sourceId, .text v.sourceRevision,
    v.verificationReceiptDigest, instantDigest v.verifiedAt, instantDigest v.expiresAt]

def DevelopmentActionConfirmation.digest (c : DevelopmentActionConfirmation) : Digest :=
  .ofFields [.text "confirmation", .text c.confirmationId, c.profileDigest, c.binding.digest,
    .text c.authenticatedPrincipal, c.authenticationEvidenceDigest,
    instantDigest c.authenticatedAt, .text c.confirmedBy, instantDigest c.confirmedAt,
    instantDigest c.expiresAt]

def authorityTextDigest (value : String) : Digest := .ofFields [.text "value", .text value]

/-! ## Evaluation -/

section Evaluation

variable (casefold : String → String)

def normalizedPrincipal (value : String) : String := casefold (strip value)

structure DevelopmentAuthorityDecision where
  eligible : Bool
  reasonCode : String
  grant : Option DevelopmentAuthorityGrant := none
  bindingVerification : Option DevelopmentBindingVerification := none

/-- `_deny`. -/
def denyDevelopment (reasonCode : String) : DevelopmentAuthorityDecision :=
  { eligible := false, reasonCode }

/-- The checks on parsed evidence, at an instant. -/
def evaluateParsedAuthority (profile : FullAuthorityDevelopmentProfile)
    (confirmation : DevelopmentActionConfirmation)
    (verification : DevelopmentBindingVerification) (evaluatedAt : ℤ) (originalQuorum : ℤ) :
    DevelopmentAuthorityDecision :=
  let normalized := normalizedPrincipal casefold
  let binding := verification.binding
  let owner := normalized profile.ownerPrincipal
  let executor := normalized profile.executorPrincipal
  if ¬ (profile.validFrom ≤ evaluatedAt ∧ evaluatedAt < profile.validUntil) then
    denyDevelopment "profile_expired"
  else if ¬ (verification.verifiedAt ≤ evaluatedAt ∧ evaluatedAt < verification.expiresAt) then
    denyDevelopment "binding_verification_stale"
  else if confirmation.profileDigest ≠ profile.digest then
    denyDevelopment "profile_digest_mismatch"
  else if confirmation.binding ≠ binding then
    denyDevelopment "action_binding_mismatch"
  else if ¬ profile.scope.covers binding.scope then
    denyDevelopment "scope_escape"
  else if binding.sourceRevision ≠ profile.sourceRevision ∨
      binding.catalogRevision ≠ profile.catalogRevision ∨
      binding.policyRevision ≠ profile.policyRevision then
    denyDevelopment "revision_mismatch"
  else if ⟨binding.actionType, binding.actionTypeVersion, binding.actionTypeDigest⟩ ∉
      profile.registeredActions then
    denyDevelopment "action_not_registered"
  else if normalized confirmation.confirmedBy ≠ owner ∨
      normalized confirmation.authenticatedPrincipal ≠ owner ∨
      normalized binding.requesterPrincipal ≠ owner then
    denyDevelopment "owner_identity_mismatch"
  else if normalized binding.executorPrincipal ≠ executor ∨ owner = executor then
    denyDevelopment "executor_identity_mismatch"
  else if ¬ (profile.validFrom ≤ confirmation.authenticatedAt ∧
      confirmation.authenticatedAt ≤ confirmation.confirmedAt ∧
      confirmation.confirmedAt ≤ evaluatedAt ∧ evaluatedAt < confirmation.expiresAt ∧
      confirmation.expiresAt ≤ profile.validUntil) then
    denyDevelopment "confirmation_outside_validity"
  else if Datetime.minutes 10 < evaluatedAt - confirmation.authenticatedAt then
    denyDevelopment "authentication_stale"
  else if Datetime.minutes 5 < evaluatedAt - confirmation.confirmedAt then
    denyDevelopment "confirmation_stale"
  else if Datetime.minutes 10 < confirmation.expiresAt - confirmation.confirmedAt then
    denyDevelopment "confirmation_lifetime_too_long"
  else
    { eligible := true
      reasonCode := "eligible"
      grant := some
        { profileId := profile.profileId
          profileDigest := profile.digest
          confirmationId := confirmation.confirmationId
          confirmationDigest := confirmation.digest
          actionBindingDigest := binding.digest
          bindingVerificationDigest := verification.digest
          ownerPrincipal := profile.ownerPrincipal
          executorPrincipal := profile.executorPrincipal
          originalQuorum
          validUntil := min profile.validUntil confirmation.expiresAt }
      bindingVerification := some verification }

def evaluateDevelopmentAuthority (profile : Option (Supplied FullAuthorityDevelopmentProfile))
    (confirmation : Option (Supplied DevelopmentActionConfirmation))
    (verification : Option (Supplied DevelopmentBindingVerification)) (now : Datetime)
    (originalQuorum : ℤ) : DevelopmentAuthorityDecision :=
  match profile, confirmation, verification with
  | none, _, _ => denyDevelopment "profile_absent"
  | some _, none, _ => denyDevelopment "confirmation_absent"
  | some _, some _, none => denyDevelopment "binding_verification_absent"
  | some profile, some confirmation, some verification =>
    match now.instant? with
    | none => denyDevelopment "clock_not_trusted"
    | some evaluatedAt =>
      if originalQuorum < 1 then denyDevelopment "original_quorum_invalid"
      else match profile, confirmation, verification with
        | .parsed profile, .parsed confirmation, .parsed verification =>
          evaluateParsedAuthority casefold profile confirmation verification evaluatedAt
            originalQuorum
        | _, _, _ => denyDevelopment "authority_evidence_malformed"

/-- The operation fields a caller supplies. `paramsDigest` is the digest of the parsed
parameters, if they parse. -/
structure DevelopmentAuthorityBindingRequest where
  actionType : String
  actionId : String
  targetRef : String
  paramsDigest : Option Digest
  requesterPrincipal : String
  executorPrincipal : String
  idempotencyKey : String
  rollbackContract : String

/-- `DevelopmentAuthorityBindingSource.verify`; a refusal of the source is no answer. -/
abbrev DevelopmentAuthorityBindingSource :=
  DevelopmentAuthorityBindingRequest → Datetime → Option (Supplied DevelopmentBindingVerification)

/-- Whether a binding is that of the requested operation. -/
def DevelopmentActionBinding.isFor (binding : DevelopmentActionBinding)
    (request : DevelopmentAuthorityBindingRequest) : Bool :=
  binding.actionType = request.actionType && binding.actionId = request.actionId &&
    binding.targetDigest = authorityTextDigest request.targetRef &&
    some binding.paramsDigest = request.paramsDigest &&
    normalizedPrincipal casefold binding.requesterPrincipal =
      normalizedPrincipal casefold request.requesterPrincipal &&
    normalizedPrincipal casefold binding.executorPrincipal =
      normalizedPrincipal casefold request.executorPrincipal &&
    binding.safeguards.idempotencyKey = request.idempotencyKey &&
    binding.safeguards.rollbackContractDigest = authorityTextDigest request.rollbackContract

/-- `resolve_development_binding`. Every refusal raises `ValueError`. -/
def resolveDevelopmentBinding (source : Option DevelopmentAuthorityBindingSource)
    (request : DevelopmentAuthorityBindingRequest) (now : Datetime) :
    Except String DevelopmentBindingVerification :=
  match source, now.instant? with
  | none, _ => .error "development authority binding source is unavailable"
  | some _, none => .error "development authority clock is not trusted"
  | some verify, some evaluatedAt =>
    match verify request now with
    | none => .error "development authority binding is unavailable"
    | some .malformed => .error "development authority binding is malformed"
    | some (.parsed verification) =>
      if ¬ (verification.verifiedAt ≤ evaluatedAt ∧ evaluatedAt < verification.expiresAt) then
        .error "development authority binding verification is stale"
      else if ¬ verification.binding.isFor casefold request then
        .error "trusted development binding does not match current operation"
      else .ok verification

end Evaluation

end Fdai.Core
