import Mathlib.Data.List.MinMax
import Fdai.RiskGate.ActionType

/-!
# Execution-authority ceiling

The axes of the ceiling, each with the level it allows and why, and their combination: the
least autonomous axis wins.

* `AxisLevel` — deny, shadow only, with approval, automatic.
* `resolveLiveProbeAxis` — what a recorded probe reading says, if anything.
* `ceilingAxes`, `resolveCeiling` — the axes in order and the winner among them.
-/

namespace Fdai.Core

/-- Levels of autonomy, the least autonomous first. -/
inductive AxisLevel where
  | deny | shadowOnly | enforceHil | enforceAuto
  deriving DecidableEq

namespace AxisLevel

/-- The number of a level. -/
def toNat : AxisLevel → ℕ
  | .deny => 0
  | .shadowOnly => 1
  | .enforceHil => 2
  | .enforceAuto => 3

theorem toNat_injective : Function.Injective toNat := by
  intro a b same
  cases a <;> cases b <;> first | rfl | cases same

instance : LinearOrder AxisLevel := LinearOrder.lift' toNat toNat_injective

@[simp] theorem deny_le (level : AxisLevel) : deny ≤ level := Nat.zero_le _

theorem le_deny {level : AxisLevel} : level ≤ deny ↔ level = deny := by
  cases level <;> decide

end AxisLevel

/-- `_AUTONOMY_TO_AXIS`. -/
def Autonomy.toAxis : Autonomy → AxisLevel
  | .shadowOnly => .shadowOnly
  | .enforceHil => .enforceHil
  | .enforceAuto => .enforceAuto

/-- `_TABLE_TO_AXIS`. -/
def RiskLevel.toAxis : RiskLevel → AxisLevel
  | .auto => .enforceAuto
  | .hil => .enforceHil
  | .deny => .deny

/-- `_ROLE_RANK`. -/
def CeilingRole.rank : CeilingRole → ℕ
  | .reader => 0
  | .contributor => 1
  | .approver => 2
  | .owner => 3

def CeilingRole.value : CeilingRole → String
  | .reader => "reader"
  | .contributor => "contributor"
  | .approver => "approver"
  | .owner => "owner"

/-- Who asks: a role on the ladder, or break-glass, which is off it. -/
inductive PrincipalRole where
  | role (role : CeilingRole)
  | breakglass

/-- Environment of the ceiling. -/
inductive Env where
  | prod | nonProd

/-- What a probe measured. -/
inductive ProbeVerdict where
  | quiet | active | overloaded | noOpinion

/-- What the probe axis makes of it. -/
inductive ProbeResult where
  | quiet | active | overloaded

def ProbeResult.value : ProbeResult → String
  | .quiet => "quiet"
  | .active => "active"
  | .overloaded => "overloaded"

/-- `_AXIS_RANK`. -/
def ProbeResult.rank : ProbeResult → ℕ
  | .quiet => 2
  | .active => 1
  | .overloaded => 0

/-- One recorded reading. -/
structure LiveProbeObservation where
  probeId : String
  verdict : ProbeVerdict
  degraded : Bool := false
  ageSeconds : Option PyFloat := none
  maxAgeSeconds : Option PyFloat := none
  named : strip probeId ≠ ""

/-- `is_fresh`: both ages are known and the reading is inside its window. -/
def LiveProbeObservation.isFresh (o : LiveProbeObservation) : Bool :=
  match o.ageSeconds, o.maxAgeSeconds with
  | some age, some maxAge =>
    if age.lt (.finite 0) || maxAge.le (.finite 0) then false else age.le maxAge
  | _, _ => false

/-- The input of the probe axis and the reason on record. -/
structure LiveProbeAxis where
  result : Option ProbeResult
  reason : String

def failureEscalationThreshold : ℤ := 3

def floorAtActive (candidate : ProbeResult) : ProbeResult :=
  if candidate.rank ≤ ProbeResult.active.rank then candidate else .active

/-- `_VERDICT_TO_AXIS`; no opinion has no entry. -/
def ProbeVerdict.candidate : ProbeVerdict → Option ProbeResult
  | .quiet => some .quiet
  | .active => some .active
  | .overloaded => some .overloaded
  | .noOpinion => none

def resolveLiveProbeAxis (py : Python) (at' : OntologyActionType)
    (observation : Option LiveProbeObservation) (failureStreak : ℤ) : LiveProbeAxis :=
  match at'.liveProbeRef, observation with
  | none, none => ⟨none, "no live_probe_ref (no opinion)"⟩
  | none, some o =>
    ⟨some .active, "unsolicited probe reading " ++ py.repr (.str o.probeId) ++
      " (no live_probe_ref)"⟩
  | some ref, observation =>
    let probe := "probe " ++ py.repr (.str ref)
    if failureEscalationThreshold ≤ failureStreak then
      ⟨some .overloaded, probe ++ s!" blind for {failureStreak} consecutive attempts"⟩
    else match observation with
    | none => ⟨some .active, probe ++ " unavailable"⟩
    | some o =>
      if o.probeId ≠ ref then
        ⟨some .active, "probe reading " ++ py.repr (.str o.probeId) ++
          " does not match ref " ++ py.repr (.str ref)⟩
      else match o.verdict.candidate with
      | none => ⟨some .active, probe ++ " returned no opinion"⟩
      | some candidate =>
        if o.degraded then
          ⟨some (floorAtActive candidate), probe ++ " degraded (" ++ candidate.value ++ ")"⟩
        else if !o.isFresh then
          ⟨some (floorAtActive candidate), probe ++ " stale (" ++ candidate.value ++ ")"⟩
        else ⟨some candidate, probe ++ "=" ++ candidate.value⟩

/-! ## The axes -/

/-- Names of the axes. -/
inductive Axis where
  | riskTable | tier | ceiling | staticBlast | liveBlast | role | env | systemHealth
  | killSwitch
  deriving DecidableEq

structure AxisContribution where
  name : Axis
  level : AxisLevel
  reason : String

section Axes

variable (tier : Tier) (at' : OntologyActionType)

def tierCeiling : Option TierCeiling :=
  at'.ceilingByTier.bind fun (byTier : CeilingByTier) =>
    match tier with
    | .t0 => byTier.t0
    | .t1 => byTier.t1
    | .t2 => byTier.t2

/-- `_axis_a_table`. -/
def axisTable (v : RiskTableVerdict) : AxisContribution :=
  ⟨.riskTable, v.decision.toAxis, "risk-classification matched_rule=" ++ v.ruleId⟩

/-- `_TIER_HARD_CAP`. -/
def Tier.hardCap : Tier → AxisLevel
  | .t0 => .enforceAuto
  | .t1 => .enforceAuto
  | .t2 => .shadowOnly

/-- `_axis_b_tier`. -/
def axisTier : AxisContribution := ⟨.tier, tier.hardCap, "tier=" ++ tier.value⟩

/-- `_TIER_DEFAULT_CEILING`. -/
def Tier.defaultCeiling : Tier → AxisLevel
  | .t0 => .enforceAuto
  | .t1 => .enforceHil
  | .t2 => .shadowOnly

/-- `_axis_c_ceiling`. -/
def axisCeiling : AxisContribution :=
  match (tierCeiling tier at').map (·.maxAutonomy) with
  | some declared =>
    ⟨.ceiling, declared.toAxis, "ceiling_by_tier." ++ tier.value ++ ".max_autonomy"⟩
  | none => ⟨.ceiling, tier.defaultCeiling, "tier default (" ++ tier.value ++ ")"⟩

/-- `_axis_d_static_blast`. An unknown impact never counts as small. -/
def axisStaticBlast (graphAffected : Option ℤ) : AxisContribution :=
  match at'.blastRadius with
  | none => ⟨.staticBlast, .enforceHil, "no blast_radius declared (unknown impact -> HIL)"⟩
  | some br =>
    match br.computation with
    | .graphDerived =>
      match graphAffected, br.maxAffectedResources with
      | some affected, some cap =>
        if (cap : ℤ) < affected then
          ⟨.staticBlast, .enforceHil, s!"graph_derived affected={affected}>max={cap}"⟩
        else ⟨.staticBlast, .enforceAuto, "graph_derived within cap"⟩
      | _, _ =>
        ⟨.staticBlast, .enforceHil, "graph_derived unknown affected-count or cap -> HIL"⟩
    | .staticEnum =>
      match br.staticBucket with
      | some .subscription => ⟨.staticBlast, .deny, "static_bucket=subscription"⟩
      | some .resourceGroup => ⟨.staticBlast, .enforceHil, "static_bucket=resource_group"⟩
      | _ => ⟨.staticBlast, .enforceAuto, "static_bucket=resource"⟩

def ProbeResult.toAxis : ProbeResult → AxisLevel
  | .quiet => .enforceAuto
  | .active => .enforceHil
  | .overloaded => .shadowOnly

/-- `_axis_e_live_blast`; an empty reason is replaced. -/
def axisLiveBlast (probe : Option ProbeResult) (reason : Option String) : AxisContribution :=
  let given := reason.filter (· ≠ "")
  match probe with
  | none => ⟨.liveBlast, .enforceAuto, given.getD "no live probe (no opinion)"⟩
  | some probe => ⟨.liveBlast, probe.toAxis, given.getD ("probe=" ++ probe.value)⟩

/-- `_axis_f_role`. -/
def axisRole (principal : Option PrincipalRole) : AxisContribution :=
  match principal, (tierCeiling tier at').map (·.minRole) with
  | some .breakglass, _ => ⟨.role, .enforceHil, "breakglass eligible (never auto)"⟩
  | _, none => ⟨.role, .enforceAuto, "no min_role (unrestricted)"⟩
  | none, some minRole => ⟨.role, .deny, "no principal < min_role=" ++ minRole.value⟩
  | some (.role role), some minRole =>
    if minRole.rank ≤ role.rank then
      ⟨.role, .enforceAuto, "principal=" ++ role.value ++ ">=min_role=" ++ minRole.value⟩
    else ⟨.role, .deny, "principal=" ++ role.value ++ "<min_role=" ++ minRole.value⟩

/-- `_axis_g_env`. -/
def axisEnv (env : Env) : AxisContribution :=
  match env, at'.prodDowngrade with
  | .nonProd, _ => ⟨.env, .enforceAuto, "not-prod"⟩
  | .prod, some downgrade =>
    ⟨.env, downgrade.mode.toAxis, "prod_downgrade.mode=" ++ downgrade.mode.value⟩
  | .prod, none =>
    if at'.envScope = .nonProd then
      ⟨.env, .enforceAuto, "env_scope=non_prod (dev-only; prod handled by risk_table)"⟩
    else
      ⟨.env, .enforceAuto, "prod without prod_downgrade (deferred to risk_table env)"⟩

/-- `_axis_h_system_health`: present only while the control plane is degraded. -/
def axisSystemHealth : AxisContribution :=
  ⟨.systemHealth, .shadowOnly,
    "degraded: critical dependency circuit open (autonomy capped to shadow)"⟩

/-- `_axis_kill_switch`: present only while the switch is engaged. -/
def axisKillSwitch : AxisContribution :=
  ⟨.killSwitch, .shadowOnly,
    "kill_switch engaged: all auto-execution halted (operator emergency stop)"⟩

end Axes

/-- The arguments of `resolve_ceiling`. -/
structure CeilingArguments where
  tier : Tier
  actionType : OntologyActionType
  riskTable : RiskTableVerdict
  principalRole : Option PrincipalRole
  env : Env
  graphAffected : Option ℤ := none
  liveProbe : Option ProbeResult := none
  liveProbeReason : Option String := none
  systemDegraded : Bool := false
  killSwitchEngaged : Bool := false

/-- The axes, in order. -/
def ceilingAxes (a : CeilingArguments) : List AxisContribution :=
  [axisTable a.riskTable, axisTier a.tier, axisCeiling a.tier a.actionType,
      axisStaticBlast a.actionType a.graphAffected,
      axisLiveBlast a.liveProbe a.liveProbeReason,
      axisRole a.tier a.actionType a.principalRole, axisEnv a.actionType a.env] ++
    (if a.systemDegraded then [axisSystemHealth] else []) ++
    (if a.killSwitchEngaged then [axisKillSwitch] else [])

/-- The breakdown of a ceiling. -/
structure ResolvedCeiling where
  tier : Tier
  actionTypeName : String
  axes : List AxisContribution
  winningAxis : Axis
  finalLevel : AxisLevel
  finalQuorum : ℤ
  finalPath : Option ExecutionPath

/-- `min(axes, key=level)`: the first of the least autonomous axes. There is always an
axis, so the default is never used. -/
def winningAxis (a : CeilingArguments) : AxisContribution :=
  (List.argmin (·.level) (ceilingAxes a)).getD (axisTable a.riskTable)

def resolveCeiling (a : CeilingArguments) : ResolvedCeiling where
  tier := a.tier
  actionTypeName := a.actionType.name
  axes := ceilingAxes a
  winningAxis := (winningAxis a).name
  finalLevel := (winningAxis a).level
  finalQuorum := a.riskTable.quorum
  finalPath := a.actionType.executionPath

variable {a : CeilingArguments}

/-- The winner is one of the axes, and none is below it. -/
theorem winningAxis_spec (a : CeilingArguments) : winningAxis a ∈ ceilingAxes a ∧
      ∀ axis ∈ ceilingAxes a, (winningAxis a).level ≤ axis.level := by
  cases found : List.argmin (·.level) (ceilingAxes a) with
  | none =>
    rw [List.argmin_eq_none] at found
    simp [ceilingAxes] at found
  | some winner =>
    rw [winningAxis, found]
    exact ⟨List.argmin_mem found, fun axis isAxis => List.le_of_mem_argmin isAxis found⟩

/-- **The ceiling is the least of its axes.** -/
theorem resolveCeiling_le {axis : AxisContribution} (isAxis : axis ∈ (resolveCeiling a).axes) :
    (resolveCeiling a).finalLevel ≤ axis.level :=
  (winningAxis_spec a).2 axis isAxis

/-- **Emergency stop.** A degraded system or an engaged kill switch caps the ceiling. -/
theorem resolveCeiling_le_shadowOnly
    (stopped : a.systemDegraded = true ∨ a.killSwitchEngaged = true) :
    (resolveCeiling a).finalLevel ≤ .shadowOnly := by
  rcases stopped with degraded | engaged
  · have isAxis : axisSystemHealth ∈ (resolveCeiling a).axes := by
      simp [resolveCeiling, ceilingAxes, degraded]
    exact resolveCeiling_le isAxis
  have isAxis : axisKillSwitch ∈ (resolveCeiling a).axes := by
    simp [resolveCeiling, ceilingAxes, engaged]
  exact resolveCeiling_le isAxis

end Fdai.Core
