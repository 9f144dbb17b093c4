import Fdai.RiskGate.Authority

/-!
# Execution authority and its ceilings

What the pipeline can do to the ceiling. The operator policy and the approval profile only
lower it; the development path raises nothing but a denial that the category alone makes.

* `WithinCeilings` — what is asked of a decision.
* `within_ceilings_iff` — a decision meets it exactly if the operator policy does not deny
  an action whose quorum the development path has lowered.
-/

namespace Fdai.Core

variable {rt : AuthorityRuntime} {i : AuthorityInput} {d : ExecutionAuthorityDecision}

/-- A denial that comes from the category of the action type alone. -/
structure DeniedByCategoryOnly (table : RiskTable) (v : FeatureVector)
    (ceiling : ResolvedCeiling) : Prop where
  axes : ∀ axis ∈ ceiling.axes, axis.level = .deny → axis.name ∈ categoryAxes
  /-- Every other axis admits approval. -/
  others : ∀ axis ∈ ceiling.axes, axis.name ∉ categoryAxes → .enforceHil ≤ axis.level
  /-- If the table denies, a rule about the category decides. -/
  rule : (table.evaluate v).decision = .deny →
    ∃ rule, table.decidingRule v = some rule ∧ rule.isCategoryDenial v = true
  /-- Without its rules about the category the table does not deny. -/
  residual : ((residualTable table v).evaluate v).decision ≠ .deny

variable {table : RiskTable} {v : FeatureVector}

theorem residual_decidingRule {rule : RiskRule}
    (decides : table.decidingRule v = some rule) (kept : rule.isCategoryDenial v = false) :
    (residualTable table v).decidingRule v = some rule := by
  obtain ⟨holds, before, after, rules, without⟩ := List.find?_eq_some_iff_append.1 decides
  refine List.find?_eq_some_iff_append.2 ⟨holds, before.filter fun rule => !rule.isCategoryDenial v,
      after.filter fun rule => !rule.isCategoryDenial v, ?_, fun other isOther => ?_⟩
  · simp [residualTable, rules, List.filter_append, kept]
  · exact without other (List.mem_filter.1 isOther).1

/-- A table that denies, but would not without its category rules, denies by one of them. -/
theorem deciding_isCategoryDenial (denies : (table.evaluate v).decision = .deny)
    (residual : ((residualTable table v).evaluate v).decision ≠ .deny) :
    ∃ rule, table.decidingRule v = some rule ∧ rule.isCategoryDenial v = true := by
  rcases decides : table.decidingRule v with _ | rule
  · simp [RiskTable.evaluate, decides] at denies
  refine ⟨rule, rfl, ?_⟩
  by_contra kept
  have decides' := residual_decidingRule decides (Bool.not_eq_true _ ▸ kept)
  simp only [RiskTable.evaluate, decides] at denies
  simp only [RiskTable.evaluate, decides'] at residual
  exact residual denies

/-- **What a category-only denial is.** -/
theorem categoryOnlyDenial_spec
    {ceiling : ResolvedCeiling} (category : (categoryOnlyDenial table v ceiling).isSome = true) :
    (∃ axis ∈ ceiling.axes, axis.level = .deny) ∧ DeniedByCategoryOnly table v ceiling := by
  unfold categoryOnlyDenial at category
  simp only at category
  split at category
  · cases category
  rename_i residual
  split at category
  · cases category
  rename_i admitted
  obtain ⟨denied, others⟩ : (ceiling.axes.filter (·.level = .deny)).map (·.name) ≠ [] ∧
      ∀ axis ∈ ceiling.axes, axis.name ∉ categoryAxes → .enforceHil ≤ axis.level := by
    simpa using admitted
  constructor
  · obtain ⟨name, isName⟩ := List.exists_mem_of_ne_nil _ denied
    obtain ⟨axis, isAxis, -⟩ := List.mem_map.1 isName
    obtain ⟨isAxis, denies⟩ := List.mem_filter.1 isAxis
    exact ⟨axis, isAxis, of_decide_eq_true denies⟩
  · refine ⟨fun axis isAxis denies => ?_, others,
      fun denies => deciding_isCategoryDenial denies residual, residual⟩
    by_contra other
    have admits := others axis isAxis other
    rw [denies] at admits
    exact absurd admits (by decide)

/-! ## The development path -/

/-- The development profile decides the level and the quorum. -/
def AuthorityInput.DevelopmentTakesEffect (rt : AuthorityRuntime) (i : AuthorityInput) : Prop :=
  i.developmentProfile.isSome = true ∧ (i.developmentEligibility rt).eligible = true ∧
    i.developmentEvidenceUnsafe = false ∧ i.admitsApproval rt = true

/-- **What the development path leaves.** The ceiling as it is; a denial; or, where it takes
effect, approval with a quorum of one. -/
theorem AuthorityInput.developmentPath_cases (rt : AuthorityRuntime) (i : AuthorityInput) :
    ((i.developmentPath rt).1 = (i.ceiling rt).finalLevel ∧
      (i.developmentPath rt).2.1 = i.verdict.quorum ∧
      (i.developmentProfile.isSome = true → i.developmentEvidenceUnsafe = false) ∧
      ¬ i.DevelopmentTakesEffect rt) ∨
    ((i.developmentPath rt).1 = .deny ∧ (i.developmentPath rt).2.1 = i.verdict.quorum ∧
      i.developmentProfile.isSome = true ∧ ¬ i.DevelopmentTakesEffect rt) ∨
    ((i.developmentPath rt).1 = .enforceHil ∧ (i.developmentPath rt).2.1 = 1 ∧
      i.DevelopmentTakesEffect rt) := by
  have quorum : (i.ceiling rt).finalQuorum = i.verdict.quorum := rfl
  rcases supplied : i.developmentProfile with _ | profile
  · refine .inl ⟨by simp [developmentPath, supplied], by simp [developmentPath, supplied, quorum],
      by simp, fun effect => ?_⟩
    have isSome := effect.1
    simp [supplied] at isSome
  cases unsafeEvidence : i.developmentEvidenceUnsafe with
  | true =>
    exact .inr (.inl ⟨by simp [developmentPath, supplied, unsafeEvidence],
      by simp [developmentPath, supplied, unsafeEvidence, quorum], rfl,
      fun effect => by simp [effect.2.2.1] at unsafeEvidence⟩)
  | false =>
    rcases eligible : (i.developmentEligibility rt).eligible with _ | _
    · exact .inr (.inl ⟨by simp [developmentPath, supplied, unsafeEvidence, eligible],
        by simp [developmentPath, supplied, unsafeEvidence, eligible, quorum], rfl,
        fun effect => by simp [effect.2.1] at eligible⟩)
    cases admits : i.admitsApproval rt with
    | true =>
      exact .inr (.inr ⟨ by simp [developmentPath, supplied, unsafeEvidence, eligible, admits],
        by simp [developmentPath, supplied, unsafeEvidence, eligible, admits],
        by simp [supplied], eligible, unsafeEvidence, admits⟩)
    | false =>
      exact .inl ⟨ by simp [developmentPath, supplied, unsafeEvidence, eligible, admits],
        by simp [developmentPath, supplied, unsafeEvidence, eligible, admits, quorum],
        by simp, fun effect => by simp [effect.2.2.2] at admits⟩

/-- An engaged kill switch or a degraded system makes the evidence unsafe. -/
theorem AuthorityInput.unsafe_of_stopped
    (stopped : i.killSwitchEngaged = true ∨ i.systemDegraded = true) :
    i.developmentEvidenceUnsafe = true := by
  rcases stopped with engaged | degraded
  · simp [developmentEvidenceUnsafe, engaged]
  · simp [developmentEvidenceUnsafe, degraded]

theorem AuthorityInput.ceiling_of_stopped
    (stopped : i.killSwitchEngaged = true ∨ i.systemDegraded = true) :
    (i.ceiling rt).finalLevel ≤ .shadowOnly :=
  resolveCeiling_le_shadowOnly stopped.symm

/-- A denied action that admits approval is denied by its category alone. -/
theorem AuthorityInput.category_of_admits (admits : i.admitsApproval rt = true)
    (low : (i.ceiling rt).finalLevel < .enforceHil) :
    (i.ceiling rt).finalLevel = .deny ∧ DeniedByCategoryOnly i.table i.feature (i.ceiling rt) := by
  have category : (categoryOnlyDenial i.table i.feature (i.ceiling rt)).isSome = true := by
    simp only [admitsApproval, Bool.or_eq_true, decide_eq_true_eq] at admits
    rcases admits with (automatic | approval) | category
    · rw [automatic] at low
      exact absurd low (by decide)
    · rw [approval] at low
      exact absurd low (by decide)
    · exact category
  obtain ⟨⟨axis, isAxis, denies⟩, only⟩ := categoryOnlyDenial_spec category
  refine ⟨?_, only⟩
  have atMost := resolveCeiling_le isAxis
  rw [denies] at atMost
  exact AxisLevel.le_deny.1 atMost

theorem applyOperatorPolicy_le (level : AxisLevel) (policy : Option OperatorPolicyInput) :
    applyOperatorPolicy level policy ≤ level := by
  cases policy with
  | none => exact le_rfl
  | some policy => exact min_le_left _ _

theorem applyOperatorPolicy_le_policy (level : AxisLevel) {policy : OperatorPolicyInput} :
    applyOperatorPolicy level (some policy) ≤ policy.level :=
  min_le_right _ _

/-- A level with approval stays so, or the policy denies it. -/
theorem applyOperatorPolicy_enforceHil (policy : Option OperatorPolicyInput) :
    (applyOperatorPolicy .enforceHil policy = .enforceHil ∧ ¬ policy.any (·.outcome = .deny)) ∨
      (applyOperatorPolicy .enforceHil policy = .deny ∧ policy.any (·.outcome = .deny)) := by
  rcases policy with _ | policy
  · exact .inl ⟨rfl, by simp⟩
  simp only [applyOperatorPolicy, OperatorPolicyInput.level, Option.any_some, decide_eq_true_eq]
  cases policy.outcome with
  | allow | requireApproval => exact .inl ⟨rfl, by simp⟩
  | deny => exact .inr ⟨rfl, rfl⟩

/-- **What the pipeline returns.** -/
theorem evaluateExecutionAuthority_cases (evaluated : evaluateExecutionAuthority rt i = .ok d) :
    d.finalLevel = applyOperatorPolicy (i.developmentPath rt).1 i.operatorPolicy ∧
      (d.quorum = (i.developmentPath rt).2.1 ∨
        d.finalLevel = .enforceHil ∧ i.developmentProfile = none) := by
  unfold evaluateExecutionAuthority at evaluated
  split at evaluated
  · cases evaluated
  rename_i exclusive
  rcases quorum : i.finalQuorum rt with e | q
  · rw [quorum] at evaluated; cases evaluated
  rw [quorum] at evaluated
  obtain rfl : i.decisionWith rt q = d := Except.ok.inj evaluated
  refine ⟨rfl, ?_⟩
  unfold AuthorityInput.finalQuorum at quorum
  split at quorum
  · rename_i approval
    simp only [Bool.and_eq_true, decide_eq_true_eq] at approval
    rw [approval.1, Bool.true_and, Bool.not_eq_true, Option.isSome_eq_false_iff,
      Option.isNone_iff_eq_none] at exclusive
    exact .inr ⟨approval.2, exclusive⟩
  · exact .inl (Except.ok.inj quorum).symm

/-- What is asked of a decision. -/
structure WithinCeilings (rt : AuthorityRuntime) (i : AuthorityInput)
    (d : ExecutionAuthorityDecision) : Prop where
  /-- Without a development profile every axis and the operator policy bound the level. -/
  bounded : i.developmentProfile = none →
    (∀ axis ∈ (i.ceiling rt).axes, d.finalLevel ≤ axis.level) ∧
      ∀ policy, i.operatorPolicy = some policy → d.finalLevel ≤ policy.level
  /-- A stopped system never acts. -/
  stopped : i.killSwitchEngaged = true ∨ i.systemDegraded = true → d.finalLevel ≤ .shadowOnly
  /-- Only a denial is raised, to approval at most, and only one by the category. -/
  raised : (i.ceiling rt).finalLevel < d.finalLevel →
    (i.ceiling rt).finalLevel = .deny ∧ d.finalLevel ≤ .enforceHil ∧
      i.developmentProfile.isSome = true ∧
      DeniedByCategoryOnly i.table i.feature (i.ceiling rt)
  /-- The quorum of the table is altered only where approval is asked for. -/
  quorum : d.quorum ≠ i.verdict.quorum → d.finalLevel = .enforceHil

/-- The operator policy denies an action whose quorum the development path has lowered. -/
def AuthorityInput.LowersDeniedQuorum (rt : AuthorityRuntime) (i : AuthorityInput) : Prop :=
  i.DevelopmentTakesEffect rt ∧ i.operatorPolicy.any (·.outcome = .deny) = true ∧
    i.verdict.quorum ≠ 1

/-- Without a development profile the path leaves the ceiling as it is. -/
theorem path_of_absent (absent : i.developmentProfile = none) :
    (i.developmentPath rt).1 = (i.ceiling rt).finalLevel := by
  simp [AuthorityInput.developmentPath, absent]

/-- The level of a decision is bounded as asked for. -/
theorem levels_within_ceilings (evaluated : evaluateExecutionAuthority rt i = .ok d) :
    (i.developmentProfile = none → (∀ axis ∈ (i.ceiling rt).axes, d.finalLevel ≤ axis.level) ∧
        ∀ policy, i.operatorPolicy = some policy → d.finalLevel ≤ policy.level) ∧
    (i.killSwitchEngaged = true ∨ i.systemDegraded = true → d.finalLevel ≤ .shadowOnly) ∧
    ((i.ceiling rt).finalLevel < d.finalLevel →
      (i.ceiling rt).finalLevel = .deny ∧ d.finalLevel ≤ .enforceHil ∧
        i.developmentProfile.isSome = true ∧
        DeniedByCategoryOnly i.table i.feature (i.ceiling rt)) := by
  obtain ⟨level, -⟩ := evaluateExecutionAuthority_cases evaluated
  have lowered : d.finalLevel ≤ (i.developmentPath rt).1 := level ▸ applyOperatorPolicy_le _ _
  refine ⟨fun absent => ⟨fun axis isAxis => ?_, fun policy supplied => ?_⟩, fun stop => ?_,
    fun above => ?_⟩
  · rw [path_of_absent absent] at lowered
    exact lowered.trans (resolveCeiling_le isAxis)
  · rw [level, supplied]
    exact applyOperatorPolicy_le_policy _
  · have evidence := i.unsafe_of_stopped stop
    rcases i.developmentPath_cases rt with ⟨kept, -⟩ | ⟨denied, -⟩ | ⟨-, -, effect⟩
    · rw [kept] at lowered
      exact lowered.trans (AuthorityInput.ceiling_of_stopped stop)
    · rw [denied] at lowered
      exact lowered.trans (AxisLevel.deny_le _)
    · simp [effect.2.2.1] at evidence
  · rcases i.developmentPath_cases rt with ⟨kept, -⟩ | ⟨denied, -⟩ | ⟨approval, -, effect⟩
    · rw [kept] at lowered
      exact absurd lowered (not_le.2 above)
    · rw [denied] at lowered
      exact absurd (above.trans_le lowered) (not_lt.2 (AxisLevel.deny_le _))
    · rw [approval] at lowered
      obtain ⟨denied, category⟩ :=
        AuthorityInput.category_of_admits effect.2.2.2 (above.trans_le lowered)
      exact ⟨denied, lowered, effect.1, category⟩

/-- **The quorum.** It is altered only where approval is asked for, unless the operator
policy denies an action whose quorum the development path has lowered. -/
theorem quorum_altered_iff (evaluated : evaluateExecutionAuthority rt i = .ok d) :
    (d.quorum ≠ i.verdict.quorum → d.finalLevel = .enforceHil) ↔ ¬ i.LowersDeniedQuorum rt := by
  obtain ⟨level, quorum⟩ := evaluateExecutionAuthority_cases evaluated
  rcases quorum with same | ⟨approval, absent⟩
  · rcases i.developmentPath_cases rt with
      ⟨-, kept, -, inert⟩ | ⟨-, kept, -, inert⟩ | ⟨admitted, one, effect⟩
    · exact ⟨fun _ lowers => inert lowers.1, fun _ altered => absurd (same.trans kept) altered⟩
    · exact ⟨fun _ lowers => inert lowers.1, fun _ altered => absurd (same.trans kept) altered⟩
    · rw [admitted] at level
      rw [same, one]
      rcases applyOperatorPolicy_enforceHil i.operatorPolicy with
        ⟨approval, allowed⟩ | ⟨denied, denies⟩
      · exact ⟨fun _ lowers => allowed lowers.2.1, fun _ _ => level.trans approval⟩
      rw [denied] at level
      constructor
      · rintro onlyApproval ⟨-, -, many⟩
        have approval := onlyApproval (Ne.symm many)
        rw [level] at approval
        cases approval
      · intro sound altered
        exact absurd ⟨effect, denies, Ne.symm altered⟩ sound
  · exact ⟨fun _ lowers => by simpa [absent] using lowers.1.1, fun _ _ => approval⟩

/-- **Execution authority stays within its ceilings** exactly if the operator policy does
not deny an action whose quorum the development path has lowered. -/
theorem within_ceilings_iff (rt : AuthorityRuntime) (i : AuthorityInput)
    (d : ExecutionAuthorityDecision) (evaluated : evaluateExecutionAuthority rt i = .ok d) :
    WithinCeilings rt i d ↔ ¬ i.LowersDeniedQuorum rt := by
  obtain ⟨bounded, stopped, raised⟩ := levels_within_ceilings evaluated
  rw [← quorum_altered_iff evaluated]
  exact ⟨fun within => within.quorum, fun quorum => ⟨bounded, stopped, raised, quorum⟩⟩

namespace TestScope

/-- A registered action type without a declared blast radius. -/
def tagResource : OntologyActionType :=
  { name := "ops.tag_resource", version := "1.0.0", operation := .tag,
    rollbackContract := .prRevert, contentDigest := .text "tag_resource" }

/-- A table that asks two people to approve anything. -/
def twoApprovals : RiskTable :=
  { version := "1", ownerGroup := "risk-owners"
    rules := [{ ruleId := "any", decision := .hil, reason := "", quorum := 2 },
      { ruleId := "otherwise", decision := .hil, reason := "", isDefault := true }] }

def scope : DevelopmentAuthorityScope :=
  { tenantDigest := .text "tenant", subscriptionDigest := .text "subscription" }

def profile : FullAuthorityDevelopmentProfile :=
  { profileId := "dev", scope, ownerPrincipal := "owner", executorPrincipal := "executor"
    validFrom := 0, validUntil := 10000, sourceRevision := "s1", catalogRevision := "c1"
    policyRevision := "p1"
    registeredActions := [⟨"ops.tag_resource", "1.0.0", .text "tag_resource"⟩]
    nonempty := by decide }

def safeguards : DevelopmentActionSafeguards :=
  { stopConditionDigest := .text "stop", rollbackContractDigest := authorityTextDigest "revert"
    rollbackTestDigest := .text "test", blastRadiusDigest := .text "blast"
    logicalTargetLockDigest := authorityTextDigest "vm-1", idempotencyKey := "key"
    auditContractDigest := .text "audit", observerPrincipal := "observer"
    observerSourceDigest := .text "source" }

def binding : DevelopmentActionBinding :=
  { actionType := "ops.tag_resource", actionTypeVersion := "1.0.0"
    actionTypeDigest := .text "tag_resource", actionId := "a1"
    targetDigest := authorityTextDigest "vm-1", targetRevision := "t1", scope
    sourceRevision := "s1", catalogRevision := "c1", policyRevision := "p1"
    paramsDigest := .text "params", actionDigest := .text "action", dryRunDigest := .text "dry"
    requesterPrincipal := "owner", executorPrincipal := "executor", safeguards }

def verification : DevelopmentBindingVerification :=
  { binding, sourceId := "deployment", sourceRevision := "s1"
    verificationReceiptDigest := .text "receipt", verifiedAt := 0, expiresAt := 10000
    nonempty := by decide }

def confirmation : DevelopmentActionConfirmation :=
  { confirmationId := "confirm-1", profileDigest := profile.digest, binding
    authenticatedPrincipal := "owner", authenticationEvidenceDigest := .text "evidence"
    authenticatedAt := 500, confirmedBy := "owner", confirmedAt := 600, expiresAt := 2000
    ordered := by decide }

def request : DevelopmentAuthorityBindingRequest :=
  { actionType := "ops.tag_resource", actionId := "a1", targetRef := "vm-1"
    paramsDigest := some (.text "params"), requesterPrincipal := "owner"
    executorPrincipal := "executor", idempotencyKey := "key", rollbackContract := "revert" }

def runtime : AuthorityRuntime := { py := .ascii, casefold := id, clock := 1000 }

def policy (outcome : OperatorPolicyOutcome) : OperatorPolicyInput :=
  { revisionId := "r1", policyDigest := .text "policy", outcome, named := by decide +kernel }

/-- A confirmed development action under an operator policy. -/
def confirmed (outcome : OperatorPolicyOutcome) : AuthorityInput :=
  { tier := .t0, actionType := tagResource, table := twoApprovals, principalRole := none
    context := { environment := "non-prod" }
    developmentProfile := some (.parsed profile)
    developmentConfirmation := some (.parsed confirmation)
    developmentBindingSource := some fun _ _ => some (.parsed verification)
    developmentBindingRequest := some request
    operatorPolicy := some (policy outcome) }

end TestScope

open TestScope in
/-- **A denied action with a lowered quorum.** The operator policy denies a confirmed
development action, whose decision carries one approval in place of two all the same. -/
theorem denied_with_lowered_quorum :
    ∃ decision, evaluateExecutionAuthority runtime (confirmed .deny) = .ok decision ∧
      decision.finalLevel = .deny ∧ decision.originalQuorum = 2 ∧ decision.quorum = 1 ∧
      ¬ WithinCeilings runtime (confirmed .deny) decision := by
  have quorum : ((confirmed .deny).developmentPath runtime).2.1 = 1 := by decide +kernel
  have denied : (confirmed .deny).finalLevel runtime = .deny := by decide +kernel
  have original : (confirmed .deny).verdict.quorum = 2 := by decide +kernel
  refine ⟨(confirmed .deny).decisionWith runtime 1, ?_, denied, original, rfl, fun within => ?_⟩
  · rw [← quorum]
    rfl
  · have approval := within.quorum (by rw [original]; decide)
    exact absurd (denied.symm.trans approval) (by decide)

open TestScope in
/-- Under a policy that allows the action the decision is within its ceilings. -/
theorem confirmed_within_ceilings :
    ∃ decision, evaluateExecutionAuthority runtime (confirmed .allow) = .ok decision ∧
      WithinCeilings runtime (confirmed .allow) decision := by
  have quorum : ((confirmed .allow).developmentPath runtime).2.1 = 1 := by decide +kernel
  have evaluated : evaluateExecutionAuthority runtime (confirmed .allow) =
      .ok ((confirmed .allow).decisionWith runtime 1) := by
    rw [← quorum]
    rfl
  refine ⟨_, evaluated, (within_ceilings_iff _ _ _ evaluated).2 ?_⟩
  rintro ⟨-, denies, -⟩
  cases denies

end Fdai.Core
