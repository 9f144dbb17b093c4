import Mathlib.Data.Prod.Lex
import Mathlib.Order.Lattice.Nat
import Fdai.ExecutionAuthorization.Policy
import Fdai.Providers.Digest
import Fdai.Providers.Time
import Fdai.Sequences.Keyed
import Fdai.Sequences.Semilattices
import Fdai.Sequences.SortedBy

/-!
# The execution-authorization resolver

The decision on one requirement, from the assignments that match it and the observations of the access
that the identity has.

* `intersectConstraints` — what the matching assignments allow together.
* `matchingAssignments`, `matchingObservations` — what takes part in the decision.
* `resolveExecutionAuthorization` — the decision.
-/

namespace Fdai.Core.ExecutionAuthorization

open Fdai.Providers (Digest)
open Fdai.Sequences

inductive AuthorizationStatus where
  | authorized | grantRequired | delegated | prohibited | unknown | policyConflict | unconfigured
  deriving DecidableEq

def AuthorizationStatus.value : AuthorizationStatus → String
  | .authorized => "authorized"
  | .grantRequired => "grant_required"
  | .delegated => "delegated"
  | .prohibited => "prohibited"
  | .unknown => "unknown"
  | .policyConflict => "policy_conflict"
  | .unconfigured => "unconfigured"

structure ResolvedAuthorizationConstraints where
  allowedGrantModes : Finset GrantMode
  maxScope : ScopeLevel
  maxDurationSeconds : ℕ
  quorum : ℕ
  approverRoles : Finset String
  requiredEvidence : Finset String
  requireEffectiveProbe : Bool
  exemptible : Bool

-- the lattice of `Bool` that computes
local instance flagLattice : Lattice Bool := Bool.linearOrder.toLattice

/-- **`_intersect_constraints`**, of the first assignment and the others: an intersection, `max`,
`min`, `max`, two unions, `any` and `all`. -/
def intersectConstraints (first : AuthorizationPolicyAssignment)
    (rest : List AuthorizationPolicyAssignment) : Option ResolvedAuthorizationConstraints :=
  let grantModes := meetOf (·.constraints.allowedGrantModes) first rest
  if grantModes = ∅ then none
  else some {
    allowedGrantModes := grantModes
    maxScope := joinOf (·.constraints.maxScope) first rest
    maxDurationSeconds := meetOf (·.constraints.maxDurationSeconds) first rest
    quorum := joinOf (·.constraints.quorum) first rest
    approverRoles := joinOf (·.constraints.approverRoles) first rest
    requiredEvidence := joinOf (·.constraints.requiredEvidence) first rest
    requireEffectiveProbe := joinOf (·.constraints.requireEffectiveProbe) first rest
    exemptible := meetOf (·.constraints.exemptible) first rest }

/-- The constraints of one assignment, as part of a digest. -/
def constraintsDigest (c : AuthorizationConstraints) : Digest := .ofFields [
  .ofTexts (sortedTexts (c.allowedGrantModes.image GrantMode.value)),
  .text c.maxScope.label,
  .num c.maxDurationSeconds,
  .num c.quorum,
  .ofTexts (sortedTexts c.approverRoles),
  .ofTexts (sortedTexts c.requiredEvidence),
  .text (toString c.requireEffectiveProbe),
  .text (toString c.exemptible)]

def authorizationPolicyBundleDigest (assignments : List AuthorizationPolicyAssignment) : Digest :=
  .ofFields (assignments.map fun item => .ofFields [ .text item.assignmentId, .text item.version,
    .text item.posture.value,
    .text item.enforcement.value,
    .ofTexts (sortedTexts item.capabilities),
    .ofTexts (sortedTexts item.executionProfiles),
    constraintsDigest item.constraints])

def constraintsPayload : Option ResolvedAuthorizationConstraints → Digest
  | none => .none
  | some c => .ofFields [ .ofTexts (sortedTexts (c.allowedGrantModes.image GrantMode.value)),
      .text c.maxScope.label,
      .num c.maxDurationSeconds,
      .num c.quorum,
      .ofTexts (sortedTexts c.approverRoles),
      .ofTexts (sortedTexts c.requiredEvidence),
      .text (toString c.requireEffectiveProbe),
      .text (toString c.exemptible)]

/-- What is resolved: the arguments but for the assignments, the observations and the digest of the
policy. -/
structure AuthorizationQuestion where
  actionTypeId : String
  resource : ResourceContext
  requirement : AuthorizationRequirement
  identityRef : String
  inventoryGeneration : String
  evaluatedAt : Datetime

structure AuthorizationDecision where
  status : AuthorizationStatus
  actionTypeId : String
  capabilityId : String
  requirementId : String
  executionProfile : String
  identityRef : String
  scopeRefs : List String
  assignmentIds : List String
  observationIds : List String
  observationEvidenceDigests : List String
  reasons : List String
  policyBundleDigest : Digest
  inventoryGeneration : String
  algorithmVersion : String
  decisionDigest : Digest
  constraints : Option ResolvedAuthorizationConstraints

/-- The observations that a decision names. -/
structure ObservedEvidence where
  observationIds : List String := []
  evidenceDigests : List String := []

def decision (question : AuthorizationQuestion) (policyBundleDigest : Digest)
    (assignmentIds : List String) (evidence : ObservedEvidence)
    (constraints : Option ResolvedAuthorizationConstraints) (status : AuthorizationStatus)
    (reason : String) : AuthorizationDecision where
  status := status
  actionTypeId := question.actionTypeId
  capabilityId := question.requirement.capabilityId
  requirementId := question.requirement.requirementId
  executionProfile := question.requirement.executionProfile
  identityRef := question.identityRef
  scopeRefs := question.requirement.scopeRefs
  assignmentIds := assignmentIds
  observationIds := evidence.observationIds
  observationEvidenceDigests := evidence.evidenceDigests
  reasons := [reason]
  policyBundleDigest := policyBundleDigest
  inventoryGeneration := question.inventoryGeneration
  algorithmVersion := "execution-authorization-v1"
  decisionDigest := .ofFields [
    .text status.value, .text question.actionTypeId, .text question.requirement.capabilityId,
    .text question.requirement.requirementId, .text question.requirement.mappingDigest,
    .text question.requirement.executionProfile, .text question.identityRef,
    .ofTexts question.requirement.scopeRefs, .ofTexts assignmentIds, .ofTexts evidence.observationIds,
    .ofTexts evidence.evidenceDigests, .ofTexts [reason], policyBundleDigest,
    .text question.inventoryGeneration, .text "execution-authorization-v1",
    constraintsPayload constraints]
  constraints := constraints

section

variable (casefold : String → String)

/-- **`matching_authorization_assignments`.** -/
def matchingAssignments (assignments : List AuthorizationPolicyAssignment)
    (requirement : AuthorizationRequirement) (resource : ResourceContext) :
    List AuthorizationPolicyAssignment :=
  sortedBy (·.assignmentId) (assignments.filter fun assignment =>
    assignment.enforcement = .enforce &&
      assignment.appliesTo casefold requirement.capabilityId requirement.executionProfile resource)

/-- `_unconfigured_reasons`. -/
def unconfiguredReason (assignments : List AuthorizationPolicyAssignment)
    (requirement : AuthorizationRequirement) (resource : ResourceContext) : String :=
  let bindingMatches := assignments.filter fun assignment =>
    requirement.capabilityId ∈ assignment.capabilities &&
      requirement.executionProfile ∈ assignment.executionProfiles
  let scopeMatches := bindingMatches.filter (·.scope.covers casefold resource)
  if assignments = [] then "no_assignments_in_catalog"
  else if bindingMatches = [] then "no_assignment_for_capability_profile"
  else if scopeMatches = [] then "no_assignment_matches_scope"
  else "all_matching_assignments_shadow"

end

/-- The observations by the scopes that they are of. -/
abbrev Selected := Keyed AuthorizationObservation.scopeRef

/-- The time and the id by which the later of two observations is told. -/
def AuthorizationObservation.age (item : AuthorizationObservation) : ℤ ×ₗ String :=
  toLex (item.observedAt, item.observationId)

/-- The observation is of what is required, of the identity, and still holds. -/
def concerns (question : AuthorizationQuestion) (evaluatedAt : ℤ) (item : AuthorizationObservation) :
    Bool :=
  item.identityRef = question.identityRef &&
    item.capabilityId = question.requirement.capabilityId &&
    item.mappingDigest = question.requirement.mappingDigest &&
    item.scopeRef ∈ question.requirement.scopeRefs &&
    item.observedAt ≤ evaluatedAt && evaluatedAt < item.expiresAt

/-- One observation more: the later one of a scope is kept, and whether two disagree. -/
def selectObservation (state : Selected × Bool) (item : AuthorizationObservation) :
    Selected × Bool :=
  match state.1.get item.scopeRef with
  | none => (state.1.put item, state.2)
  | some previous =>
    if previous = item then state
    else
      (if previous.age < item.age then state.1.put item else state.1,
        state.2 || previous.status ≠ item.status)

/-- **`_matching_observations`.** -/
def matchingObservations (question : AuthorizationQuestion) (evaluatedAt : ℤ)
    (observations : List AuthorizationObservation) : List AuthorizationObservation × Bool :=
  let (selected, conflict) :=
    (observations.filter (concerns question evaluatedAt)).foldl selectObservation
      (Keyed.empty, false)
  (sortedBy (·.observationId) selected.values, conflict)

/-- Some scope is broader than the maximum; a scope that is no address raises. -/
def exceedsMaximum (maximum : ScopeLevel) : List String → Except String Bool
  | [] => .ok false
  | scope :: rest => do
    let ref ← ScopeRef.parse scope
    if ref.level < maximum then return true
    exceedsMaximum maximum rest

/-- The evidence that a decision names. -/
def evidenceOf (current : List AuthorizationObservation) : ObservedEvidence where
  observationIds := current.map (·.observationId)
  evidenceDigests := sortedTexts (current.map (·.evidenceDigest)).toFinset

/-- The status and its reason, once the policy permits the action. -/
def observedOutcome (scopeRefs : List String) (requestable conflict : Bool)
    (current : List AuthorizationObservation) : AuthorizationStatus × String :=
  let allowed := (current.filter (·.status = .allowed)).map (·.scopeRef)
  if conflict then (.unknown, "conflicting_effective_access_evidence")
  else if current.any (·.status = .unknown) then (.unknown, "effective_access_evidence_unknown")
  else if scopeRefs.all (· ∈ allowed) then (.authorized, "effective_access_verified")
  else if requestable then (.grantRequired, "bounded_grant_required")
  else (.unknown, "effective_access_not_verified")

/-- The postures under which a grant may be requested. -/
def AuthorizationPosture.requestable : AuthorizationPosture → Bool
  | .requestJit | .standing => true
  | _ => false

def resolveMatching (question : AuthorizationQuestion) (evaluatedAt : ℤ)
    (first : AuthorizationPolicyAssignment) (rest : List AuthorizationPolicyAssignment)
    (observations : List AuthorizationObservation) (policyBundleDigest : Digest) :
    Except String AuthorizationDecision :=
  let matching := first :: rest
  let ids := matching.map (·.assignmentId)
  let decide_ := decision question policyBundleDigest ids
  if ¬ ids.Nodup then .ok (decide_ {} none .policyConflict "duplicate_assignment_id")
  else if policyBundleDigest ≠ authorizationPolicyBundleDigest matching then
    .ok (decide_ {} none .policyConflict "policy_bundle_digest_mismatch")
  else
    match intersectConstraints first rest with
    | none => .ok (decide_ {} none .policyConflict "empty_grant_mode_intersection")
    | some constraints => do
      let exceeds ← exceedsMaximum constraints.maxScope question.requirement.scopeRefs
      return if exceeds then
        decide_ {} (some constraints) .policyConflict "requirement_scope_exceeds_policy_maximum"
      else if matching.any (·.posture = .prohibit) then
        decide_ {} (some constraints) .prohibited "prohibit_assignment_matched"
      else if matching.any (·.posture = .delegateManual) then
        decide_ {} (some constraints) .delegated "manual_delegation_required"
      else
        let observed := matchingObservations question evaluatedAt observations
        let outcome := observedOutcome question.requirement.scopeRefs
          (matching.all (·.posture.requestable)) observed.2 observed.1
        decide_ (evidenceOf observed.1) (some constraints) outcome.1 outcome.2

/-- A digest that is not given. -/
def isMissing : Digest → Bool
  | .text value => isBlank value
  | _ => false

/-- **`resolve_execution_authorization`.** -/
def resolveExecutionAuthorization (casefold : String → String) (question : AuthorizationQuestion)
    (assignments : List AuthorizationPolicyAssignment)
    (observations : List AuthorizationObservation) (policyBundleDigest : Digest) :
    Except String AuthorizationDecision :=
  match question.evaluatedAt with
  | .naive _ => .error "authorization evaluation time MUST be timezone-aware"
  | .aware evaluatedAt =>
    if isBlank question.identityRef || isMissing policyBundleDigest ||
        isBlank question.inventoryGeneration then
      .error "authorization evaluation references MUST be non-empty"
    else if !question.requirement.appliesTo question.actionTypeId question.resource.resourceType then
      .ok (decision question policyBundleDigest [] {} none .unknown "requirement_not_applicable")
    else
      match matchingAssignments casefold assignments question.requirement question.resource with
      | [] => .ok (decision question policyBundleDigest [] {} none .unconfigured
          (unconfiguredReason casefold assignments question.requirement question.resource))
      | first :: rest =>
        resolveMatching question evaluatedAt first rest observations policyBundleDigest

end Fdai.Core.ExecutionAuthorization
