import Fdai.RiskGate.ActionType
import Fdai.RiskGate.DevelopmentAuthority
import Fdai.Sequences.Keyed

/-!
# The risk gate

The last check before an action is executed: what the gate knows of the action is collected
as reasons against executing it, and an action without a reason is executed.

* `RiskGate`, `RiskRequest` — the gate with its registries, and the arguments of `evaluate`.
* `currentProfileDigest` — development evidence, revalidated against the current state.
* `indexEvaluations`, `preconditionReasons` — evaluations, matched to preconditions.
* `RiskGate.evaluate` — the checks in order.

The registry of promotions is the state its decisions leave: a mode for each action type.
`Rule` is not read by the gate.
-/

namespace Fdai.Core.RiskGating

open Fdai.Providers (Digest)
open Fdai.Sequences

inductive Mode where
  | shadow | enforce
  deriving DecidableEq

inductive PreconditionKind where
  | graphFreshWithinSeconds | linkExists | linkAbsent | noConflictingOpenActionOnResource
  | maintenanceWindowActive | resourcePropertyEquals | resourceTagPresent
  deriving DecidableEq

def PreconditionKind.value : PreconditionKind → String
  | .graphFreshWithinSeconds => "graph_fresh_within_seconds"
  | .linkExists => "link_exists"
  | .linkAbsent => "link_absent"
  | .noConflictingOpenActionOnResource => "no_conflicting_open_action_on_resource"
  | .maintenanceWindowActive => "maintenance_window_active"
  | .resourcePropertyEquals => "resource_property_equals"
  | .resourceTagPresent => "resource_tag_present"

inductive PreconditionValue where
  | none
  | bool (value : Bool)
  | int (value : ℤ)
  | float (value : PyFloat)
  | str (value : String)

structure ActionPrecondition where
  kind : PreconditionKind
  value : PreconditionValue := .none

structure GatedActionType extends OntologyActionType where
  preconditions : List ActionPrecondition := []

structure BlastRadius where
  scope : BlastRadiusScope
  count : Option ℕ := none
  ratePerMinute : Option ℕ := none

/-- What the gate reads of a proposed action. `paramsDigest` is the digest of its parameters,
if they can be written as JSON. -/
structure Action where
  actionId : String
  idempotencyKey : String
  targetResourceRef : String
  paramsDigest : Option Digest
  stopCondition : String
  rollbackKind : RollbackKind
  blastRadius : BlastRadius
  citingRules : List String

structure PreconditionEvaluation where
  conditionIndex : ℕ
  kind : PreconditionKind
  satisfied : Bool

inductive UpstreamSignal where
  | deny | abstain
  deriving DecidableEq

structure DevelopmentAuthorityEnvelope where
  confirmation : DevelopmentActionConfirmation
  bindingVerification : DevelopmentBindingVerification
  grant : DevelopmentAuthorityGrant

/-- The arguments of `evaluate`. -/
structure RiskRequest where
  action : Action
  actionType : GatedActionType
  inventoryAgeSeconds : Option ℤ := none
  preconditionEvaluations : List PreconditionEvaluation := []
  automationHoldEngaged : Bool := false
  automationHoldRecovery : Bool := false
  upstreamSignal : Option UpstreamSignal := none
  developmentAuthority : Option (Supplied DevelopmentAuthorityEnvelope) := none

structure RiskGateConfig where
  maxAffectedResources : ℕ := 10
  maxRatePerMinute : ℕ := 30
  maxPreconditionAgeSeconds : ℕ := 900
  hilAuthorityActionTypes : List String := ["governance.promote-action-type"]
  resources_pos : 1 ≤ maxAffectedResources := by decide
  rate_pos : 1 ≤ maxRatePerMinute := by decide

structure ExemptionMatch where
  exemptionId : String
  scopeSummary : String := ""

/-- `find_match`: of a rule, a resource and its resource group. -/
abbrev ExemptionRegistry := String → String → Option String → Option ExemptionMatch

structure DevelopmentModeRecord where
  mode : Mode
  developmentValidUntil : Option ℤ := none

/-- What evaluations read of the promotions. -/
structure ActionPromotionRegistry where
  enforcementEnabled : Bool := true
  records : String → Option Mode := fun _ => none
  developmentRecords : Digest → String → Option DevelopmentModeRecord := fun _ _ => none

/-- A gate, during a call of `evaluate`. -/
structure RiskGate where
  config : RiskGateConfig
  registry : ActionPromotionRegistry
  exemptions : ExemptionRegistry
  developmentProfile : Option FullAuthorityDevelopmentProfile := none
  developmentBindingSource : Option DevelopmentAuthorityBindingSource := none
  developmentExecutorPrincipal : Option String := none
  /-- The reading of the clock for the profile, and the one for its mode. -/
  profileClock : Datetime := .aware 0
  modeClock : Datetime := .aware 0
  /-- `str.casefold` and `str.lower`. -/
  casefold : String → String := id
  lower : String → String := id

/-- What `evaluate` raises. -/
inductive GateError where
  | value (message : String)
  | overflow (message : String)
  /-- `params` cannot be written as JSON. -/
  | notJson
  /-- A time without a time zone is compared with one that has one. -/
  | naiveComparison

inductive RiskDecisionOutcome where
  | auto | hil | deny | abstain

structure RiskDecision where
  outcome : RiskDecisionOutcome
  actionId : String
  effectiveMode : Mode
  reasons : List String := []

def ActionPromotionRegistry.modeOf (registry : ActionPromotionRegistry) (actionType : String) :
    Mode :=
  if ¬ registry.enforcementEnabled then .shadow
  else (registry.records actionType).getD .shadow

def ActionPromotionRegistry.developmentModeOf (registry : ActionPromotionRegistry)
    (profileDigest : Digest) (actionType : String) (clock : Datetime) : Except GateError Mode :=
  if ¬ registry.enforcementEnabled then .ok .shadow
  else match registry.developmentRecords profileDigest actionType with
    | none => .ok .shadow
    | some record =>
      match record.developmentValidUntil with
      | none => .ok record.mode
      | some validUntil =>
        match clock.instant? with
        | none => .error .naiveComparison
        | some now => .ok (if validUntil ≤ now then .shadow else record.mode)

/-- `DevelopmentAuthorityBindingRequest.from_action`. -/
def requestFromAction (action : Action) (actionType : GatedActionType)
    (requesterPrincipal executorPrincipal : String) :
    Except GateError DevelopmentAuthorityBindingRequest :=
  match action.paramsDigest with
  | none => .error .notJson
  | some paramsDigest =>
    let request : DevelopmentAuthorityBindingRequest :=
      { actionType := actionType.name, actionId := action.actionId
        targetRef := action.targetResourceRef, paramsDigest := some paramsDigest
        requesterPrincipal, executorPrincipal, idempotencyKey := action.idempotencyKey
        rollbackContract := action.rollbackKind.value }
    if [request.actionType, request.actionId, request.targetRef, request.requesterPrincipal,
        request.executorPrincipal, request.idempotencyKey, request.rollbackContract].any
        fun value => value = "" ∨ value ≠ strip value then
      .error (.value "development binding request identity MUST be complete")
    else .ok request

def revalidateDevelopmentAuthority (casefold : String → String)
    (profile : FullAuthorityDevelopmentProfile) (confirmation : DevelopmentActionConfirmation)
    (verification : DevelopmentBindingVerification) (grant : DevelopmentAuthorityGrant)
    (now : Datetime) (originalQuorum : ℤ) : DevelopmentAuthorityDecision :=
  let decision := evaluateDevelopmentAuthority casefold (some (.parsed profile))
    (some (.parsed confirmation)) (some (.parsed verification)) now originalQuorum
  if ¬ decision.eligible ∨ decision.grant = none then decision
  else if some grant ≠ decision.grant then denyDevelopment "grant_mismatch"
  else decision

/-- The last comparisons of `current_profile_digest`. -/
def isCurrentAuthority (profile : FullAuthorityDevelopmentProfile)
    (envelope : DevelopmentAuthorityEnvelope) (verification : DevelopmentBindingVerification)
    (action : Action) (actionType : GatedActionType) (now : ℤ) : Bool :=
  let confirmation := envelope.confirmation
  let grant := envelope.grant
  let binding := verification.binding
  grant.profileDigest = profile.digest && confirmation.profileDigest = grant.profileDigest &&
    confirmation.digest = grant.confirmationDigest && confirmation.binding = binding &&
    binding.digest = grant.actionBindingDigest &&
    verification.digest = grant.bindingVerificationDigest &&
    now < confirmation.expiresAt && now < verification.expiresAt && now < grant.validUntil &&
    binding.actionType = actionType.name && binding.actionTypeVersion = actionType.version &&
    binding.actionTypeDigest = actionType.contentDigest && binding.actionId = action.actionId &&
    binding.targetDigest = authorityTextDigest action.targetResourceRef &&
    some binding.paramsDigest = action.paramsDigest &&
    binding.safeguards.idempotencyKey = action.idempotencyKey &&
    binding.safeguards.rollbackContractDigest = authorityTextDigest action.rollbackKind.value &&
    ⟨actionType.name, actionType.version, actionType.contentDigest⟩ ∈ profile.registeredActions

def RiskGate.currentProfileDigest (gate : RiskGate) (action : Action)
    (actionType : GatedActionType) :
    Supplied DevelopmentAuthorityEnvelope → Except GateError (Option Digest)
  | .malformed => .ok none
  | .parsed envelope =>
    match gate.developmentProfile, gate.developmentBindingSource,
        gate.developmentExecutorPrincipal, gate.profileClock.instant? with
    | some profile, some source, some executorPrincipal, some now =>
      if executorPrincipal = "" then .ok none
      else do
        let request ← requestFromAction action actionType profile.ownerPrincipal executorPrincipal
        match resolveDevelopmentBinding gate.casefold (some source) request gate.profileClock with
        | .error _ => pure none
        | .ok verification =>
          if verification ≠ envelope.bindingVerification then pure none
          else
            let decision := revalidateDevelopmentAuthority gate.casefold profile
              envelope.confirmation verification envelope.grant gate.profileClock
              envelope.grant.originalQuorum
            if ¬ decision.eligible ∨ decision.grant ≠ some envelope.grant then pure none
            else if ¬ isCurrentAuthority profile envelope verification action actionType
                now then pure none
            else pure (some envelope.grant.profileDigest)
    | _, _, _, _ => .ok none

/-- `str.find`: where a text first occurs in another one. -/
def findText (needle : List Char) : List Char → Option ℕ
  | [] => if needle = [] then some 0 else none
  | c :: rest =>
    if needle.isPrefixOf (c :: rest) then some 0 else (findText needle rest).map (· + 1)

def extractResourceGroup (lower : String → String) (resourceRef : String) : Option String :=
  let marker := "/resourcegroups/".toList
  match findText marker (lower resourceRef).toList with
  | none => none
  | some idx =>
    let tail := resourceRef.toList.drop (idx + marker.length)
    let candidate := tail.takeWhile (· ≠ '/')
    if candidate = [] then none else some (String.ofList candidate)

/-- The exemption of the first cited rule that has one. -/
def RiskGate.exemption (gate : RiskGate) (action : Action) : Option ExemptionMatch :=
  action.citingRules.findSome? fun cited =>
    gate.exemptions cited action.targetResourceRef
      (extractResourceGroup gate.lower action.targetResourceRef)

/-! ## Reasons -/

/-- The reasons that the blast radius of an action gives. -/
def blastRadiusReasons (config : RiskGateConfig) (radius : BlastRadius) : List String :=
  (match radius.count with
    | none =>
      -- one resource is bounded without a count
      if radius.scope ≠ .resource then
        ["blast_radius_count_unknown_for_scope=" ++ radius.scope.value]
      else []
    | some count =>
      if config.maxAffectedResources < count then
        ["blast_radius_count=" ++ toString count ++ ">max=" ++ toString config.maxAffectedResources]
      else []) ++
  match radius.ratePerMinute with
  | some rate =>
    if config.maxRatePerMinute < rate then
      ["blast_radius_rate=" ++ toString rate ++ ">max=" ++ toString config.maxRatePerMinute]
    else []
  | none => []

/-- `int(val)` of a number that is no truth value. -/
def PreconditionValue.seconds : PreconditionValue → Except GateError (Option ℤ)
  | .int value => .ok (some value)
  | .float (.finite value) => .ok (some (value.num.tdiv value.den))
  | .float .nan => .error (.value "cannot convert float NaN to integer")
  | .float (.infinite _) => .error (.overflow "cannot convert float infinity to integer")
  | .none | .bool _ | .str _ => .ok Option.none

/-- The preconditions on the age of the inventory. -/
def freshnessPreconditions (preconditions : List ActionPrecondition) : List ActionPrecondition :=
  preconditions.filter fun precondition => precondition.kind = .graphFreshWithinSeconds

def declaredAges (actionType : GatedActionType) : Except GateError (List ℤ) := do
  let values ← (freshnessPreconditions actionType.preconditions).mapM fun p => p.value.seconds
  pure (values.filterMap id)

def declaredGraphFreshSeconds (actionType : GatedActionType) : Except GateError ℤ := do
  match ← declaredAges actionType with
  | [] => .error (.value ("ActionType '" ++ actionType.name ++
      "' declares a graph_fresh_within_seconds precondition but no numeric value was found"))
  | first :: rest => pure (rest.foldl min first)

/-- The reasons that the age of the inventory gives. -/
def freshnessReasons (config : RiskGateConfig) (actionType : GatedActionType) (age : Option ℤ) :
    Except GateError (List String) :=
  if freshnessPreconditions actionType.preconditions = [] then .ok []
  else match age with
    | none => .ok ["graph_fresh_precondition_unknown_age"]
    | some age => do
      let declared ← declaredGraphFreshSeconds actionType
      let floor := min declared config.maxPreconditionAgeSeconds
      if floor < age then
        pure ["graph_fresh_precondition_stale:age=" ++ toString age ++ ">max=" ++ toString floor]
      else pure []

abbrev EvaluationsByIndex := Keyed PreconditionEvaluation.conditionIndex

def indexEvaluations : List PreconditionEvaluation → EvaluationsByIndex →
    List String × EvaluationsByIndex
  | [], byIndex => ([], byIndex)
  | evaluation :: rest, byIndex =>
    match byIndex.get evaluation.conditionIndex with
    | some _ =>
      let (reasons, indexed) := indexEvaluations rest byIndex
      (("precondition_evaluation_duplicate:index=" ++ toString evaluation.conditionIndex) ::
        reasons, indexed)
    | none => indexEvaluations rest (byIndex.put evaluation)

/-- The reason that one precondition gives. -/
def preconditionReason (byIndex : EvaluationsByIndex) (index : ℕ)
    (precondition : ActionPrecondition) : Option String :=
  if precondition.kind = .graphFreshWithinSeconds then none
  else match byIndex.get index with
    | none => some ("precondition_unresolved:index=" ++ toString index ++ ":kind=" ++
        precondition.kind.value)
    | some evaluation =>
      if evaluation.kind ≠ precondition.kind then
        some ("precondition_evaluation_mismatch:index=" ++ toString index ++ ":expected=" ++
          precondition.kind.value ++ ":actual=" ++ evaluation.kind.value)
      else if ¬ evaluation.satisfied then
        some ("precondition_failed:index=" ++ toString index ++ ":kind=" ++ precondition.kind.value)
      else none

def preconditionReasons (byIndex : EvaluationsByIndex) :
    (index : ℕ) → List ActionPrecondition → List String
  | _, [] => []
  | index, precondition :: rest =>
    (preconditionReason byIndex index precondition).toList ++
      preconditionReasons byIndex (index + 1) rest

/-- The reasons of an action without its safety fields. -/
def missingFieldReasons (action : Action) : List String :=
  (if isBlank action.stopCondition then ["missing_stop_condition"] else []) ++
    if action.citingRules = [] then ["missing_citing_rules"] else []

/-- The mode an action takes effect in, and the reasons it gives. -/
def RiskGate.effectiveMode (gate : RiskGate) (request : RiskRequest) :
    Except GateError (Mode × List String) := do
  let name := request.actionType.name
  let authorityMutation := name ∈ gate.config.hilAuthorityActionTypes
  match request.developmentAuthority with
  | some authority => do
    match ← gate.currentProfileDigest request.action request.actionType authority with
    | none => pure (.shadow, ["development_authority_unverified", "action_type_in_shadow_mode"])
    | some profileDigest => do
      let mode ← gate.registry.developmentModeOf profileDigest name gate.modeClock
      pure (mode, if mode ≠ .enforce then ["action_type_in_shadow_mode"] else [])
  | none =>
    if authorityMutation then pure (.enforce, ["authority_mutation_requires_hil"])
    else
      let mode := gate.registry.modeOf name
      pure (mode, if mode ≠ .enforce then ["action_type_in_shadow_mode"] else [])

/-- The reasons of a request that nothing has decided yet, in the order they are found. -/
def RiskGate.reasons (gate : RiskGate) (request : RiskRequest) :
    Except GateError (Mode × List String) := do
  let fresh ← freshnessReasons gate.config request.actionType request.inventoryAgeSeconds
  let (duplicates, byIndex) := indexEvaluations request.preconditionEvaluations Keyed.empty
  let (mode, modeReasons) ← gate.effectiveMode request
  pure (mode, (if request.automationHoldEngaged ∧ request.automationHoldRecovery then
      ["target_automation_hold_recovery_requires_hil"] else []) ++
    (if request.actionType.irreversible then ["action_type_irreversible_requires_hil"] else []) ++
    blastRadiusReasons gate.config request.action.blastRadius ++ fresh ++ duplicates ++
    preconditionReasons byIndex 0 request.actionType.preconditions ++
    missingFieldReasons request.action ++ modeReasons)

def RiskGate.evaluate (gate : RiskGate) (request : RiskRequest) : Except GateError RiskDecision :=
  let actionId := request.action.actionId
  let mode := gate.registry.modeOf request.actionType.name
  if request.automationHoldEngaged ∧ ¬ request.automationHoldRecovery then
    .ok ⟨.deny, actionId, mode, ["target_automation_hold_active"]⟩
  else if request.upstreamSignal = some .deny then
    .ok ⟨.deny, actionId, mode, ["upstream_verifier_deny"]⟩
  else match gate.exemption request.action with
    | some found =>
      .ok ⟨.abstain, actionId, mode,
        ["human_override:exemption=" ++ found.exemptionId ++ ":scope=" ++ found.scopeSummary]⟩
    | none => do
      let (effectiveMode, reasons) ← gate.reasons request
      if request.upstreamSignal = some .abstain ∧ reasons = [] then
        pure ⟨.abstain, actionId, effectiveMode, ["upstream_verifier_abstain"]⟩
      else if reasons ≠ [] then pure ⟨.hil, actionId, effectiveMode, reasons⟩
      else pure ⟨.auto, actionId, effectiveMode, []⟩

end Fdai.Core.RiskGating
