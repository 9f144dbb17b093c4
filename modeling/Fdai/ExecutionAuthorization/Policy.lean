import Mathlib.Data.Finset.Image
import Mathlib.Data.String.Basic
import Mathlib.Order.Fin.Basic
import Fdai.Providers.Checks
import Fdai.Providers.Text

/-!
# Execution-authorization policy

The assignments of a policy, the scopes they cover, what an action requires, and what was observed of
the access of an identity.

* `ScopeRef`, `ScopeMatcher` — scope addresses, and the resources that a scope covers.
* `AuthorizationConstraints`, `AuthorizationPolicyAssignment` — what one assignment allows.
* `AuthorizationRequirement`, `AuthorizationObservation` — what is required and what was observed.

A record is one that its constructor accepts: it carries what the constructor checks. Times are
aware, so they are instants. `str.casefold` is what the language decides.
-/

namespace Fdai.Core.ExecutionAuthorization

/-! ## Scopes -/

/-- `ScopeLevel`, and `AuthorizationScopeLevel`: from the broadest to the narrowest. -/
inductive ScopeLevel where
  | organization | account | resourceGroup | resource

namespace ScopeLevel

/-- `int(level)`. -/
def rank : ScopeLevel → Fin 4
  | .organization => 0
  | .account => 1
  | .resourceGroup => 2
  | .resource => 3

theorem rank_injective : Function.Injective rank := by
  intro a b same
  cases a <;> cases b <;> first | rfl | cases same

instance : LinearOrder ScopeLevel := LinearOrder.lift' rank rank_injective

/-- `level.name.lower()`. -/
def label : ScopeLevel → String
  | .organization => "organization"
  | .account => "account"
  | .resourceGroup => "resource_group"
  | .resource => "resource"

/-- All levels, in order. -/
def all : List ScopeLevel := [.organization, .account, .resourceGroup, .resource]

end ScopeLevel

structure ResourceContext where
  organization : String
  account : String
  resourceGroup : String
  resourceId : String
  resourceType : String
  tags : List (String × String) := []

def ResourceContext.idAt (context : ResourceContext) : ScopeLevel → String
  | .organization => context.organization
  | .account => context.account
  | .resourceGroup => context.resourceGroup
  | .resource => context.resourceId

structure ScopeSelector where
  resourceTypes : Finset String := ∅
  tags : List (String × String) := []
  resourceIds : Finset String := ∅

/-- The checks of a scope segment. -/
def isSegment (segment : String) : Bool :=
  segment ≠ "" && segment = strip segment && !segment.toList.contains '/'

/-- `ScopeRef`: the segments of an address, from one to four. -/
structure ScopeRef where
  segments : List String
  bounded : 1 ≤ segments.length ∧ segments.length ≤ 4
  wellFormed : segments.all isSegment = true

/-- `level`: the number of segments decides it. -/
def ScopeRef.level (ref : ScopeRef) : ScopeLevel :=
  ScopeLevel.all.getD (ref.segments.length - 1) .resource

def ScopeRef.parse (uri : String) : Except String ScopeRef :=
  if "scope://".toList.isPrefixOf uri.toList then
    let path := uri.toList.drop 8
    if path = [] then .error "scope URI MUST have at least one segment"
    else
      let segments := (path.splitOn '/').map String.ofList
      if bounded : 1 ≤ segments.length ∧ segments.length ≤ 4 then
        if wellFormed : segments.all isSegment = true then .ok ⟨segments, bounded, wellFormed⟩
        else .error "ScopeRef segment MUST be non-empty, whitespace-trimmed, and '/'-free"
      else .error "ScopeRef MUST have 1..4 segments"
  else .error "scope URI MUST start with 'scope://'"

section

variable (casefold : String → String)

/-- `matches`. -/
def ScopeSelector.selects (selector : ScopeSelector) (context : ResourceContext) : Bool :=
  (selector.resourceTypes = ∅ || context.resourceType ∈ selector.resourceTypes) &&
    (selector.resourceIds = ∅ ||
      casefold context.resourceId ∈ selector.resourceIds.image casefold) &&
    selector.tags.all fun tag => context.tags.lookup tag.1 = some tag.2

def ScopeRef.covers (ref : ScopeRef) (context : ResourceContext) : Bool :=
  (ScopeLevel.all.zip ref.segments).all fun (level, segment) =>
    casefold (context.idAt level) = casefold segment

/-- `Scope`, or `ScopeBinding`. What their constructors refuse (an id that is not trimmed, a binding
that covers nothing) is not refused here: no result depends on it. -/
inductive ScopeMatcher where
  | scope (level : ScopeLevel) (id : String) (selector : Option ScopeSelector)
      (excludes : Finset String)
  | binding (includes excludes : List ScopeRef) (selector : Option ScopeSelector)

/-- `covers`, of either. -/
def ScopeMatcher.covers (context : ResourceContext) : ScopeMatcher → Bool
  | .scope level id selector excludes =>
    casefold (context.idAt level) = casefold id && (ScopeLevel.all.all fun below =>
        below < level || casefold (context.idAt below) ∉ excludes.image casefold) &&
      selector.all (·.selects casefold context)
  | .binding includes excludes selector =>
    includes.any (·.covers casefold context) && !excludes.any (·.covers casefold context) &&
      selector.all (·.selects casefold context)

end

inductive AuthorizationPosture where
  | prohibit | delegateManual | preprovisionedOnly | requestJit | standing
  deriving DecidableEq

def AuthorizationPosture.value : AuthorizationPosture → String
  | .prohibit => "prohibit"
  | .delegateManual => "delegate_manual"
  | .preprovisionedOnly => "preprovisioned_only"
  | .requestJit => "request_jit"
  | .standing => "standing"

inductive AuthorizationEnforcement where
  | doNotEnforce | enforce
  deriving DecidableEq

def AuthorizationEnforcement.value : AuthorizationEnforcement → String
  | .doNotEnforce => "do-not-enforce"
  | .enforce => "enforce"

inductive GrantMode where
  | actionBound | timeBound | standing
  deriving DecidableEq

def GrantMode.value : GrantMode → String
  | .actionBound => "action_bound"
  | .timeBound => "time_bound"
  | .standing => "standing"

structure AuthorizationConstraints where
  allowedGrantModes : Finset GrantMode
  maxScope : ScopeLevel
  maxDurationSeconds : ℕ
  quorum : ℕ := 1
  approverRoles : Finset String := ∅
  requiredEvidence : Finset String := ∅
  requireEffectiveProbe : Bool := true
  exemptible : Bool := false
  modes_nonempty : allowedGrantModes ≠ ∅
  duration_pos : 1 ≤ maxDurationSeconds
  quorum_pos : 1 ≤ quorum
  labels_present : ∀ label ∈ approverRoles ∪ requiredEvidence, isBlank label = false

structure AuthorizationPolicyAssignment where
  assignmentId : String
  capabilities : Finset String
  executionProfiles : Finset String
  scope : ScopeMatcher
  posture : AuthorizationPosture
  constraints : AuthorizationConstraints
  enforcement : AuthorizationEnforcement := .doNotEnforce
  version : String := "1.0.0"
  named : isBlank assignmentId = false ∧ isBlank version = false
  bound : capabilities ≠ ∅ ∧ executionProfiles ≠ ∅

def AuthorizationPolicyAssignment.appliesTo (casefold : String → String)
    (assignment : AuthorizationPolicyAssignment) (capabilityId executionProfile : String)
    (resource : ResourceContext) : Bool :=
  capabilityId ∈ assignment.capabilities && executionProfile ∈ assignment.executionProfiles &&
    assignment.scope.covers casefold resource

structure AuthorizationRequirement where
  requirementId : String
  capabilityId : String
  actionTypeIds : Finset String
  resourceTypes : Finset String
  scopeRefs : List String
  executionProfile : String
  mappingDigest : String
  named : ∀ value ∈ [requirementId, capabilityId, executionProfile, mappingDigest],
    isBlank value = false
  selective : actionTypeIds ≠ ∅ ∧ resourceTypes ≠ ∅ ∧ scopeRefs ≠ []
  addressed : ∀ scope ∈ scopeRefs, "scope://".toList.isPrefixOf scope.toList = true

def AuthorizationRequirement.appliesTo (requirement : AuthorizationRequirement)
    (actionTypeId resourceType : String) : Bool :=
  actionTypeId ∈ requirement.actionTypeIds && resourceType ∈ requirement.resourceTypes

inductive AccessObservationStatus where
  | allowed | denied | unknown
  deriving DecidableEq

structure AuthorizationObservation where
  observationId : String
  identityRef : String
  capabilityId : String
  scopeRef : String
  mappingDigest : String
  status : AccessObservationStatus
  observedAt : ℤ
  expiresAt : ℤ
  evidenceDigest : String
  named : ∀ value ∈ [observationId, identityRef, capabilityId, scopeRef, mappingDigest,
    evidenceDigest], isBlank value = false
  addressed : "scope://".toList.isPrefixOf scopeRef.toList = true
  expires : observedAt < expiresAt

instance : DecidableEq AuthorizationObservation :=
  (show Function.Injective fun o : AuthorizationObservation => ([o.observationId, o.identityRef,
    o.capabilityId, o.scopeRef, o.mappingDigest, o.evidenceDigest], o.status, o.observedAt,
    o.expiresAt) from fun a b same => by cases a; cases b; simp_all).decidableEq

end Fdai.Core.ExecutionAuthorization
