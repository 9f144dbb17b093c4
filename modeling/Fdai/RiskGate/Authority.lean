import Fdai.RiskGate.Ceiling
import Fdai.RiskGate.DevelopmentAuthority

/-!
# Execution authority

The one pipeline of the risk gate: the feature vector, the table, the ceiling, then the
development profile, the operator policy and the approval profile.

* `categoryOnlyDenial` — whether the category of the action type alone denies it.
* `developmentEvidenceUnsafe` — whether a prerequisite of the development path failed.
* `evaluateExecutionAuthority` — the pipeline.
-/

namespace Fdai.Core

open Fdai.Providers (Digest)

/-- `CATEGORY_DIMENSIONS`: the dimensions that come from the action type alone. -/
def categoryDimensions : List String :=
  ["blast_radius", "data_plane_touched", "destructive", "irreversible", "reversible",
    "rollback_path"]

def categoryAxes : List Axis := [.riskTable, .staticBlast]

/-- A matching deny rule that asks for category dimensions only. -/
def RiskRule.isCategoryDenial (v : FeatureVector) (rule : RiskRule) : Bool :=
  rule.decision = .deny && !rule.conditions.isEmpty &&
    rule.dimensions.all (· ∈ categoryDimensions) && rule.matchesVector v

/-- The table without its matching category denials. Equal rules match alike, so removing
the rules equal to one of them removes just them. -/
def residualTable (table : RiskTable) (v : FeatureVector) : RiskTable :=
  { table with rules := table.rules.filter fun rule => !rule.isCategoryDenial v }

/-- The facts of a category-only denial. -/
structure CategoryDenial where
  ruleIds : List String
  axes : List Axis
  residualRuleId : String
  residualDecision : RiskLevel
  residualQuorum : ℤ

def categoryOnlyDenial (table : RiskTable) (v : FeatureVector) (ceiling : ResolvedCeiling) :
    Option CategoryDenial :=
  let residual := (residualTable table v).evaluate v
  let denying := (ceiling.axes.filter (·.level = .deny)).map (·.name)
  if residual.decision = .deny then none
  else if denying = [] ||
      ceiling.axes.any (fun axis => axis.name ∉ categoryAxes && axis.level < .enforceHil) then
    none
  else some
    { ruleIds := (table.rules.filter (·.isCategoryDenial v)).map (·.ruleId)
      axes := denying
      residualRuleId := residual.ruleId
      residualDecision := residual.decision
      residualQuorum := residual.quorum }

def liveProbeEvidenceStale (at' : OntologyActionType)
    (observation : Option LiveProbeObservation) (failureStreak : ℤ) : Bool :=
  match at'.liveProbeRef, observation with
  | none, _ => false
  | some _, none => true
  | some ref, some o => 0 < failureStreak || o.probeId ≠ ref || o.degraded || !o.isFresh

def graphEvidenceMissing (at' : OntologyActionType) (graphStale : Option Bool)
    (graphAffected : Option ℤ) : Bool :=
  (ActionInterface.requiresInventoryFresh ∈ at'.interfaces && graphStale ≠ some false) ||
    (at'.blastRadius.any (·.computation = .graphDerived) && graphAffected.isNone)

inductive ApprovalProfileKind where
  | multiOperator | singleOperatorProduction
  deriving DecidableEq

/-- One approval policy revision. A single-operator revision names its operator, and only
such a one does. -/
structure ApprovalProfileRevision where
  revisionId : String
  approvalProfile : ApprovalProfileKind
  executorPrincipal : String
  operatorPrincipal : Option String := none
  named : strip revisionId ≠ ""
  executor_named : strip executorPrincipal ≠ ""
  operator_named : approvalProfile = .singleOperatorProduction ↔ operatorPrincipal.isSome

def ApprovalProfileRevision.isSingleOperator (profile : ApprovalProfileRevision) : Bool :=
  profile.approvalProfile = .singleOperatorProduction

/-- Why the pipeline raises. -/
inductive AuthorityError where
  | profilesExclusive
  | quorumInvalid

/-- The text of the `ValueError`. -/
def AuthorityError.message : AuthorityError → String
  | .profilesExclusive =>
    "approval_profile and development_profile MUST NOT both be supplied; " ++
      "the full-authority development profile owns its own approval rule"
  | .quorumInvalid => "original quorum MUST be an integer >= 1"

def effectiveQuorumFor (profile : Option ApprovalProfileRevision) (originalQuorum : ℤ) :
    Except AuthorityError ℤ :=
  if originalQuorum < 1 then .error .quorumInvalid
  else if profile.any (·.isSingleOperator) then .ok 1
  else .ok originalQuorum

inductive OperatorPolicyOutcome where
  | allow | requireApproval | deny
  deriving DecidableEq

/-- One evaluated operator policy, pinned to its revision. -/
structure OperatorPolicyInput where
  revisionId : String
  policyDigest : Digest
  outcome : OperatorPolicyOutcome
  named : strip revisionId ≠ ""

def OperatorPolicyInput.level (policy : OperatorPolicyInput) : AxisLevel :=
  match policy.outcome with
  | .allow => .enforceAuto
  | .requireApproval => .enforceHil
  | .deny => .deny

def applyOperatorPolicy (constitutionalLevel : AxisLevel) : Option OperatorPolicyInput → AxisLevel
  | none => constitutionalLevel
  | some policy => min constitutionalLevel policy.level

/-! ## The pipeline -/

/-- The arguments of `evaluate_execution_authority`. -/
structure AuthorityInput where
  tier : Tier
  actionType : OntologyActionType
  table : RiskTable
  principalRole : Option PrincipalRole
  context : DispatchContext
  graphAffected : Option ℤ := none
  liveProbeObservation : Option LiveProbeObservation := none
  liveProbeFailureStreak : ℤ := 0
  systemDegraded : Bool := false
  killSwitchEngaged : Bool := false
  developmentProfile : Option (Supplied FullAuthorityDevelopmentProfile) := none
  developmentConfirmation : Option (Supplied DevelopmentActionConfirmation) := none
  developmentBindingSource : Option DevelopmentAuthorityBindingSource := none
  developmentBindingRequest : Option DevelopmentAuthorityBindingRequest := none
  evaluatedAt : Option Datetime := none
  approvalProfile : Option ApprovalProfileRevision := none
  operatorPolicy : Option OperatorPolicyInput := none

/-- What the pipeline reads of its surroundings. -/
structure AuthorityRuntime where
  py : Python
  casefold : String → String
  /-- `datetime.now(tz=UTC)`. -/
  clock : ℤ

/-- The ceiling inputs on record. -/
structure CeilingInputs where
  principalRole : Option PrincipalRole
  graphAffected : Option ℤ
  liveProbe : Option LiveProbeObservation
  liveProbeFailureStreak : ℤ
  systemDegraded : Bool
  killSwitchEngaged : Bool

/-- The result of the pipeline. -/
structure ExecutionAuthorityDecision where
  finalLevel : AxisLevel
  quorum : ℤ
  originalLevel : AxisLevel
  originalQuorum : ℤ
  resolvedCeiling : ResolvedCeiling
  tableVerdict : RiskTableVerdict
  featureVector : FeatureVector
  catalogVersion : String
  ceilingInputs : CeilingInputs
  developmentAuthority : Option DevelopmentAuthorityDecision := none
  approvalProfile : Option ApprovalProfileRevision := none
  operatorPolicy : Option OperatorPolicyInput := none

namespace AuthorityInput

variable (rt : AuthorityRuntime) (i : AuthorityInput)

/-- The feature vector of the action. -/
def feature : FeatureVector := featureVectorFrom i.actionType i.context

def verdict : RiskTableVerdict := i.table.evaluate i.feature

/-- The ceiling of the action. -/
def ceiling : ResolvedCeiling :=
  let probeAxis := resolveLiveProbeAxis rt.py i.actionType i.liveProbeObservation
    i.liveProbeFailureStreak
  resolveCeiling
    { tier := i.tier
      actionType := i.actionType
      riskTable := i.verdict
      principalRole := i.principalRole
      env := if i.context.environment = "prod" then .prod else .nonProd
      graphAffected := i.graphAffected
      liveProbe := probeAxis.result
      liveProbeReason := some probeAxis.reason
      systemDegraded := i.systemDegraded
      killSwitchEngaged := i.killSwitchEngaged }

/-- The time of the evaluation. -/
def now : Datetime := i.evaluatedAt.getD (.aware rt.clock)

/-- The binding the deployment's source verifies for the requested operation. -/
def bindingVerification : Option DevelopmentBindingVerification :=
  i.developmentBindingRequest.bind fun request =>
    (resolveDevelopmentBinding rt.casefold i.developmentBindingSource request (i.now rt)).toOption

/-- The development decision, before the evidence of the action is looked at. -/
def developmentEligibility : DevelopmentAuthorityDecision :=
  match i.bindingVerification rt with
  | none => denyDevelopment "binding_source_rejected"
  | some verification =>
    if verification.binding.actionType ≠ i.actionType.name ∨
        verification.binding.actionTypeVersion ≠ i.actionType.version ∨
        verification.binding.actionTypeDigest ≠ i.actionType.contentDigest then
      denyDevelopment "current_action_type_mismatch"
    else
      evaluateDevelopmentAuthority rt.casefold i.developmentProfile
        i.developmentConfirmation (some (.parsed verification)) (i.now rt)
        (i.ceiling rt).finalQuorum

def developmentEvidenceUnsafe : Bool :=
  i.context.policyViolation ||
    graphEvidenceMissing i.actionType i.context.graphStale i.graphAffected ||
    i.systemDegraded || i.killSwitchEngaged ||
    liveProbeEvidenceStale i.actionType i.liveProbeObservation i.liveProbeFailureStreak

/-- The ceiling admits approval, or the category alone denies the action. -/
def admitsApproval : Bool :=
  (i.ceiling rt).finalLevel = .enforceAuto || (i.ceiling rt).finalLevel = .enforceHil ||
    (categoryOnlyDenial i.table i.feature (i.ceiling rt)).isSome

/-- The development path: the level and the quorum it leaves, and its decision. -/
def developmentPath : AxisLevel × ℤ × Option DevelopmentAuthorityDecision :=
  let ceiling := i.ceiling rt
  match i.developmentProfile with
  | none => (ceiling.finalLevel, ceiling.finalQuorum, none)
  | some _ =>
    let decision := i.developmentEligibility rt
    if i.developmentEvidenceUnsafe then
      (.deny, ceiling.finalQuorum, some (denyDevelopment "safety_or_evidence_prerequisite_failed"))
    else if !decision.eligible then (.deny, ceiling.finalQuorum, some decision)
    else if i.admitsApproval rt then (.enforceHil, 1, some decision)
    else (ceiling.finalLevel, ceiling.finalQuorum, some decision)

/-- The level after the operator policy. -/
def finalLevel : AxisLevel := applyOperatorPolicy (i.developmentPath rt).1 i.operatorPolicy

/-- The quorum, which the approval profile lowers only where approval is asked for. -/
def finalQuorum : Except AuthorityError ℤ :=
  if i.approvalProfile.isSome && i.finalLevel rt = .enforceHil then
    effectiveQuorumFor i.approvalProfile (i.developmentPath rt).2.1
  else .ok (i.developmentPath rt).2.1

def decisionWith (quorum : ℤ) : ExecutionAuthorityDecision where
  finalLevel := i.finalLevel rt
  quorum
  originalLevel := (i.ceiling rt).finalLevel
  originalQuorum := (i.ceiling rt).finalQuorum
  resolvedCeiling := i.ceiling rt
  tableVerdict := i.verdict
  featureVector := i.feature
  catalogVersion := i.table.version
  ceilingInputs :=
    { principalRole := i.principalRole
      graphAffected := i.graphAffected
      liveProbe := i.liveProbeObservation
      liveProbeFailureStreak := i.liveProbeFailureStreak
      systemDegraded := i.systemDegraded
      killSwitchEngaged := i.killSwitchEngaged }
  developmentAuthority := (i.developmentPath rt).2.2
  approvalProfile := i.approvalProfile
  operatorPolicy := i.operatorPolicy

end AuthorityInput

def evaluateExecutionAuthority (rt : AuthorityRuntime) (i : AuthorityInput) :
    Except AuthorityError ExecutionAuthorityDecision :=
  if i.approvalProfile.isSome && i.developmentProfile.isSome then .error .profilesExclusive
  else (i.finalQuorum rt).map (i.decisionWith rt)

end Fdai.Core
