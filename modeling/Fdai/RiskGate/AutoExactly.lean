import Fdai.RiskGate.Gate

/-!
# What the gate admits

An action is executed without a person exactly if nothing speaks against it, and a signal
that speaks against it more never admits it.

* `Admissible` — all that has to hold of a request.
* `auto_exactly` — the equivalence, and what it says of additional signals and evaluations.
-/

namespace Fdai.Core.RiskGating

open Fdai.Providers (Digest)
open Fdai.Sequences

/-- A count within the cap, or none for a single resource; and a rate within its cap. -/
structure BlastRadiusAcceptable (config : RiskGateConfig) (radius : BlastRadius) : Prop where
  count : ∀ count ∈ radius.count, count ≤ config.maxAffectedResources
  bounded : radius.count = none → radius.scope = .resource
  rate : ∀ rate ∈ radius.ratePerMinute, rate ≤ config.maxRatePerMinute

/-- Where an age of the inventory is declared, the inventory is no older than the least of
the declared ages, and than the cap. -/
def FreshEnough (config : RiskGateConfig) (actionType : GatedActionType) (age : Option ℤ) :
    Prop :=
  freshnessPreconditions actionType.preconditions ≠ [] →
    ∃ seconds ∈ age, seconds ≤ config.maxPreconditionAgeSeconds ∧
      ∃ declared, declaredAges actionType = .ok declared ∧ declared ≠ [] ∧
        ∀ limit ∈ declared, seconds ≤ limit

def Matched (preconditions : List ActionPrecondition) (index : ℕ) : Prop :=
  ∃ precondition, preconditions[index]? = some precondition ∧
    precondition.kind ≠ .graphFreshWithinSeconds

/-- Every precondition but those on the age of the inventory has an evaluation of its kind
that is satisfied. -/
def PreconditionsMet (preconditions : List ActionPrecondition)
    (evaluations : List PreconditionEvaluation) : Prop :=
  ∀ index precondition, preconditions[index]? = some precondition →
    precondition.kind ≠ .graphFreshWithinSeconds →
      ∃ evaluation ∈ evaluations, evaluation.conditionIndex = index ∧
        evaluation.kind = precondition.kind ∧ evaluation.satisfied = true

/-- The action type takes effect: it is promoted, and no authority mutation; or development
evidence is current, and it is promoted under its profile. -/
def ModeAdmits (gate : RiskGate) (request : RiskRequest) : Prop :=
  match request.developmentAuthority with
  | none => request.actionType.name ∉ gate.config.hilAuthorityActionTypes ∧
      gate.registry.modeOf request.actionType.name = .enforce
  | some authority => ∃ profileDigest,
      gate.currentProfileDigest request.action request.actionType authority =
        .ok (some profileDigest) ∧
      gate.registry.developmentModeOf profileDigest request.actionType.name gate.modeClock =
        .ok .enforce

/-- **All that has to hold** for an action to be executed without a person. -/
structure Admissible (gate : RiskGate) (request : RiskRequest) : Prop where
  hold : request.automationHoldEngaged = false
  signal : request.upstreamSignal = none
  exemption : ∀ rule ∈ request.action.citingRules,
    gate.exemptions rule request.action.targetResourceRef
      (extractResourceGroup gate.lower request.action.targetResourceRef) = none
  reversible : request.actionType.irreversible = false
  blastRadius : BlastRadiusAcceptable gate.config request.action.blastRadius
  fresh : FreshEnough gate.config request.actionType request.inventoryAgeSeconds
  once : (request.preconditionEvaluations.map (·.conditionIndex)).Nodup
  preconditions : PreconditionsMet request.actionType.preconditions request.preconditionEvaluations
  stopCondition : isBlank request.action.stopCondition = false
  citingRules : request.action.citingRules ≠ []
  mode : ModeAdmits gate request

section

variable {gate gate' : RiskGate} {request request' : RiskRequest} {config : RiskGateConfig}

theorem blastRadiusReasons_eq_nil {radius : BlastRadius} :
    blastRadiusReasons config radius = [] ↔ BlastRadiusAcceptable config radius := by
  obtain ⟨scope, count, rate⟩ := radius
  unfold blastRadiusReasons
  rw [List.append_eq_nil_iff]
  constructor
  · rintro ⟨counted, rated⟩
    refine ⟨fun c isCount => ?_, fun isNone => ?_, fun r isRate => ?_⟩
    · obtain rfl : count = some c := isCount
      simpa using counted
    · obtain rfl : count = none := isNone
      simpa using counted
    · obtain rfl : rate = some r := isRate
      simpa using rated
  · rintro ⟨counted, bounded, rated⟩
    constructor
    · cases count with
      | none => simpa using bounded rfl
      | some c => simpa using counted c rfl
    · cases rate with
      | none => rfl
      | some r => simpa using rated r rfl

/-- What is below the least of the declared ages. -/
theorem le_foldl_min {first : ℤ} {rest : List ℤ} {age : ℤ} :
    age ≤ rest.foldl min first ↔ ∀ limit ∈ first :: rest, age ≤ limit := by
  induction rest generalizing first with
  | nil => simp
  | cons next rest ih =>
    rw [List.foldl_cons, ih]
    simp only [List.mem_cons, forall_eq_or_imp, le_min_iff]
    tauto

theorem declaredGraphFreshSeconds_eq_ok {actionType : GatedActionType} {least : ℤ} :
    declaredGraphFreshSeconds actionType = .ok least ↔
      ∃ first rest, declaredAges actionType = .ok (first :: rest) ∧
        rest.foldl min first = least := by
  unfold declaredGraphFreshSeconds
  rw [bind_eq_ok]
  constructor
  · rintro ⟨ages, isDeclared, isLeast⟩
    cases ages with
    | nil => cases isLeast
    | cons first rest => exact ⟨first, rest, isDeclared, Except.ok.inj isLeast⟩
  · rintro ⟨first, rest, isDeclared, rfl⟩
    exact ⟨first :: rest, isDeclared, rfl⟩

theorem freshnessReasons_eq_nil {actionType : GatedActionType} {age : Option ℤ} :
    freshnessReasons config actionType age = .ok [] ↔ FreshEnough config actionType age := by
  unfold freshnessReasons FreshEnough
  by_cases isDeclared : freshnessPreconditions actionType.preconditions = []
  · simp [isDeclared]
  rw [if_neg isDeclared]
  rcases age with _ | seconds
  · simp [isDeclared]
  constructor
  · intro noReason _
    obtain ⟨least, isLeast, noReason⟩ := bind_eq_ok.1 noReason
    obtain ⟨first, rest, ages, rfl⟩ := declaredGraphFreshSeconds_eq_ok.1 isLeast
    have fresh : seconds ≤ min (rest.foldl min first) config.maxPreconditionAgeSeconds := by
      by_contra stale
      rw [if_pos (not_le.1 stale)] at noReason
      cases noReason
    obtain ⟨belowAges, belowCap⟩ := le_min_iff.1 fresh
    exact ⟨seconds, rfl, belowCap, first :: rest, ages, by simp, le_foldl_min.1 belowAges⟩
  · intro fresh
    obtain ⟨_, isAge, belowCap, ages, isAges, some_age, belowAges⟩ := fresh isDeclared
    obtain rfl := Option.some.inj isAge
    rcases ages with _ | ⟨first, rest⟩
    · exact absurd rfl some_age
    refine bind_eq_ok.2 ⟨_, declaredGraphFreshSeconds_eq_ok.2 ⟨first, rest, isAges, rfl⟩, ?_⟩
    exact if_neg (not_lt.2 (le_min (le_foldl_min.2 belowAges) belowCap))

/-! ### Preconditions -/

/-- **What indexing finds**: the first evaluation of an index, and no reason if there are no
two of one index. -/
theorem indexEvaluations_spec (evaluations : List PreconditionEvaluation)
    (byIndex : EvaluationsByIndex) :
    ((indexEvaluations evaluations byIndex).1 = [] ↔ (evaluations.map (·.conditionIndex)).Nodup ∧
        ∀ evaluation ∈ evaluations, byIndex.get evaluation.conditionIndex = none) ∧
    ∀ index, (indexEvaluations evaluations byIndex).2.get index =
      (byIndex.get index).or (evaluations.find? (·.conditionIndex = index)) := by
  induction evaluations generalizing byIndex with
  | nil => simp [indexEvaluations]
  | cons evaluation rest ih =>
    unfold indexEvaluations
    split
    · rename_i earlier found
      refine ⟨?_, fun index => ?_⟩
      · simp [found]
      · rw [(ih byIndex).2 index, List.find?_cons]
        by_cases same : evaluation.conditionIndex = index
        · subst same
          simp [found]
        · simp [same]
    · rename_i absent
      obtain ⟨reasons, gets⟩ := ih (byIndex.put evaluation)
      refine ⟨?_, fun index => ?_⟩
      · rw [reasons, List.map_cons, List.nodup_cons, List.forall_mem_cons]
        have apart (other : PreconditionEvaluation) :
            (byIndex.put evaluation).get other.conditionIndex = none ↔
              other.conditionIndex ≠ evaluation.conditionIndex ∧
                byIndex.get other.conditionIndex = none := by
          rw [Keyed.get_put]
          split
          · simp [*]
          · simp [*]
        constructor
        · rintro ⟨nodup, fresh⟩
          refine ⟨⟨?_, nodup⟩, absent, fun other isOther => ((apart other).1
            (fresh other isOther)).2⟩
          rintro isIndex
          obtain ⟨other, isOther, same⟩ := List.mem_map.1 isIndex
          exact ((apart other).1 (fresh other isOther)).1 same
        · rintro ⟨⟨new, nodup⟩, -, fresh⟩
          refine ⟨nodup, fun other isOther => (apart other).2 ⟨?_, fresh other isOther⟩⟩
          intro same
          exact new (List.mem_map.2 ⟨other, isOther, same⟩)
      · rw [gets index, Keyed.get_put, List.find?_cons]
        by_cases same : evaluation.conditionIndex = index
        · subst same
          simp [absent]
        · rw [if_neg (Ne.symm same)]
          simp [same]

theorem preconditionReasons_eq_nil {byIndex : EvaluationsByIndex} {start : ℕ}
    {preconditions : List ActionPrecondition} :
    preconditionReasons byIndex start preconditions = [] ↔
      ∀ index precondition, preconditions[index]? = some precondition →
        preconditionReason byIndex (start + index) precondition = none := by
  induction preconditions generalizing start with
  | nil => simp [preconditionReasons]
  | cons first rest ih =>
    rw [preconditionReasons, List.append_eq_nil_iff, Option.toList_eq_nil_iff, ih]
    constructor
    · rintro ⟨here, later⟩ index precondition isIndex
      cases index with
      | zero =>
        obtain rfl := Option.some.inj isIndex
        exact here
      | succ index =>
        have := later index precondition isIndex
        rwa [Nat.add_right_comm] at this
    · intro all
      refine ⟨all 0 first rfl, fun index precondition isIndex => ?_⟩
      rw [Nat.add_right_comm]
      exact all (index + 1) precondition isIndex

theorem preconditionReason_eq_none {byIndex : EvaluationsByIndex} {index : ℕ}
    {precondition : ActionPrecondition} :
    preconditionReason byIndex index precondition = none ↔
      (precondition.kind ≠ .graphFreshWithinSeconds → ∃ evaluation,
        byIndex.get index = some evaluation ∧ evaluation.kind = precondition.kind ∧
          evaluation.satisfied = true) := by
  unfold preconditionReason
  by_cases isFreshness : precondition.kind = .graphFreshWithinSeconds
  · simp [isFreshness]
  rw [if_neg isFreshness]
  rcases found : byIndex.get index with _ | evaluation
  · simp [isFreshness]
  by_cases sameKind : evaluation.kind = precondition.kind
  · simp [isFreshness, sameKind]
  · simp [isFreshness, sameKind]

/-- **Preconditions and evaluations** give no reason exactly if they match one to one. -/
theorem evaluations_eq_nil {evaluations : List PreconditionEvaluation}
    {preconditions : List ActionPrecondition} :
    (indexEvaluations evaluations Keyed.empty).1 = [] ∧
        preconditionReasons (indexEvaluations evaluations Keyed.empty).2 0 preconditions = [] ↔
      (evaluations.map (·.conditionIndex)).Nodup ∧ PreconditionsMet preconditions evaluations := by
  obtain ⟨reasons, gets⟩ := indexEvaluations_spec evaluations Keyed.empty
  rw [reasons, preconditionReasons_eq_nil]
  refine ⟨fun ⟨⟨nodup, _⟩, met⟩ => ⟨nodup, fun index precondition isIndex matters => ?_⟩,
    fun ⟨nodup, met⟩ => ⟨⟨nodup, fun _ _ => rfl⟩, fun index precondition isIndex => ?_⟩⟩
  · have noReason := met index precondition isIndex
    rw [Nat.zero_add, preconditionReason_eq_none] at noReason
    obtain ⟨evaluation, found, sameKind, satisfied⟩ := noReason matters
    rw [gets index, Keyed.get_empty, Option.none_or] at found
    exact ⟨evaluation, List.mem_of_find?_eq_some found, by simpa using List.find?_some found,
      sameKind, satisfied⟩
  · rw [Nat.zero_add, preconditionReason_eq_none]
    intro matters
    obtain ⟨evaluation, isEvaluation, rfl, sameKind, satisfied⟩ :=
      met index precondition isIndex matters
    refine ⟨evaluation, ?_, sameKind, satisfied⟩
    rw [gets, Keyed.get_empty, Option.none_or]
    cases found : evaluations.find? fun other =>
        other.conditionIndex = evaluation.conditionIndex with
    | none =>
      have fresh := List.find?_eq_none.1 found evaluation isEvaluation
      simp at fresh
    | some other =>
      have same : other.conditionIndex = evaluation.conditionIndex := by
        simpa using List.find?_some found
      rw [List.inj_on_of_nodup_map nodup (List.mem_of_find?_eq_some found) isEvaluation same]

theorem effectiveMode_eq_nil :
    (∃ mode, gate.effectiveMode request = .ok (mode, [])) ↔ ModeAdmits gate request := by
  unfold RiskGate.effectiveMode ModeAdmits
  dsimp only
  rcases request.developmentAuthority with _ | authority
  · dsimp only
    by_cases isMutation : request.actionType.name ∈ gate.config.hilAuthorityActionTypes
    · simp [isMutation, pure, Except.pure]
    · simp [isMutation, pure, Except.pure]
  dsimp only
  constructor
  · rintro ⟨mode, noReason⟩
    obtain ⟨current, isCurrent, noReason⟩ := bind_eq_ok.1 noReason
    rcases current with _ | profileDigest
    · simp [pure, Except.pure] at noReason
    obtain ⟨found, isMode, noReason⟩ := bind_eq_ok.1 noReason
    refine ⟨profileDigest, isCurrent, ?_⟩
    rw [isMode]
    have both : found = mode ∧ found = .enforce := by
      simpa [pure, Except.pure] using noReason
    rw [both.2]
  · rintro ⟨profileDigest, isCurrent, isMode⟩
    refine ⟨.enforce, bind_eq_ok.2 ⟨_, isCurrent, ?_⟩⟩
    exact bind_eq_ok.2 ⟨_, isMode, by simp [pure, Except.pure]⟩

/-! ## The cascade -/

theorem exemption_eq_none : gate.exemption request.action = none ↔
    ∀ rule ∈ request.action.citingRules, gate.exemptions rule request.action.targetResourceRef
        (extractResourceGroup gate.lower request.action.targetResourceRef) = none := by
  unfold RiskGate.exemption
  rw [List.findSome?_eq_none_iff]

/-- The reasons of a request, one kind after the other. -/
theorem reasons_eq_nil : (∃ mode, gate.reasons request = .ok (mode, [])) ↔
    ¬ (request.automationHoldEngaged = true ∧ request.automationHoldRecovery = true) ∧
      request.actionType.irreversible = false ∧
      BlastRadiusAcceptable gate.config request.action.blastRadius ∧
      FreshEnough gate.config request.actionType request.inventoryAgeSeconds ∧
      ((request.preconditionEvaluations.map (·.conditionIndex)).Nodup ∧
        PreconditionsMet request.actionType.preconditions request.preconditionEvaluations) ∧
      (isBlank request.action.stopCondition = false ∧ request.action.citingRules ≠ []) ∧
      ModeAdmits gate request := by
  have recovery : (if request.automationHoldEngaged ∧ request.automationHoldRecovery then
      ["target_automation_hold_recovery_requires_hil"] else []) = [] ↔
        ¬ (request.automationHoldEngaged = true ∧ request.automationHoldRecovery = true) := by
    split <;> simp [*]
  have reversible : (if request.actionType.irreversible then
      ["action_type_irreversible_requires_hil"] else []) = [] ↔
        request.actionType.irreversible = false := by
    split <;> simp [*]
  have fields : missingFieldReasons request.action = [] ↔
      isBlank request.action.stopCondition = false ∧ request.action.citingRules ≠ [] := by
    unfold missingFieldReasons
    split <;> split <;> simp [*]
  rw [← recovery, ← reversible, ← blastRadiusReasons_eq_nil, ← freshnessReasons_eq_nil,
    ← evaluations_eq_nil, ← fields, ← effectiveMode_eq_nil]
  unfold RiskGate.reasons
  constructor
  · rintro ⟨mode, noReason⟩
    obtain ⟨fresh, isFresh, noReason⟩ := bind_eq_ok.1 noReason
    dsimp only at noReason
    obtain ⟨⟨found, modeReasons⟩, isMode, noReason⟩ := bind_eq_ok.1 noReason
    obtain ⟨-, noReason⟩ := Prod.mk.inj (Except.ok.inj noReason)
    simp only [List.append_eq_nil_iff] at noReason
    obtain ⟨⟨⟨⟨⟨⟨⟨noRecovery, noIrreversible⟩, noBlast⟩, rfl⟩, noDuplicate⟩, noCondition⟩,
      noField⟩, rfl⟩ := noReason
    exact ⟨noRecovery, noIrreversible, noBlast, isFresh, ⟨noDuplicate, noCondition⟩, noField,
      found, isMode⟩
  · rintro ⟨noRecovery, noIrreversible, noBlast, isFresh, ⟨noDuplicate, noCondition⟩, noField,
      mode, isMode⟩
    refine ⟨mode, bind_eq_ok.2 ⟨[], isFresh, ?_⟩⟩
    refine bind_eq_ok.2 ⟨(mode, []), isMode, ?_⟩
    rw [noRecovery, noIrreversible, noBlast, noDuplicate, noCondition, noField]
    rfl

/-- The outcome of a request. -/
def RiskGate.admits (gate : RiskGate) (request : RiskRequest) : Prop :=
  ∃ decision, gate.evaluate request = .ok decision ∧ decision.outcome = .auto

/-- **The cascade is the conjunction.** -/
theorem admits_iff : gate.admits request ↔ Admissible gate request := by
  have decided : gate.admits request ↔
      ¬ (request.automationHoldEngaged = true ∧ ¬ request.automationHoldRecovery = true) ∧
        request.upstreamSignal ≠ some .deny ∧ gate.exemption request.action = none ∧
        request.upstreamSignal ≠ some .abstain ∧
        ∃ mode, gate.reasons request = .ok (mode, []) := by
    unfold RiskGate.admits RiskGate.evaluate
    dsimp only
    by_cases held : request.automationHoldEngaged = true ∧ ¬ request.automationHoldRecovery = true
    · simp [held]
    rw [if_neg held]
    by_cases denied : request.upstreamSignal = some .deny
    · simp [denied]
    rw [if_neg denied]
    cases exempt : gate.exemption request.action with
    | some found => simp
    | none =>
      dsimp only
      constructor
      · rintro ⟨decision, isDecision, isAuto⟩
        obtain ⟨⟨mode, reasons⟩, isReasons, isDecision⟩ := bind_eq_ok.1 isDecision
        dsimp only at isDecision
        split at isDecision
        · obtain rfl := Except.ok.inj isDecision
          cases isAuto
        rename_i notAbstained
        split at isDecision
        · obtain rfl := Except.ok.inj isDecision
          cases isAuto
        rename_i noReason
        obtain rfl := not_not.1 noReason
        exact ⟨held, denied, rfl, fun abstained => notAbstained ⟨abstained, rfl⟩, mode, isReasons⟩
      · rintro ⟨-, -, -, notAbstained, mode, isReasons⟩
        refine ⟨⟨.auto, request.action.actionId, mode, []⟩, bind_eq_ok.2 ⟨_, isReasons, ?_⟩, rfl⟩
        dsimp only
        rw [if_neg fun h => notAbstained h.1, if_neg (not_not.2 rfl)]
        rfl
  rw [decided, exemption_eq_none, reasons_eq_nil]
  constructor
  · rintro ⟨notHeld, notDenied, exempt, notAbstained, notRecovery, reversible, blast, fresh,
      ⟨once, met⟩, ⟨stop, cited⟩, mode⟩
    refine ⟨?_, ?_, exempt, reversible, blast, fresh, once, met, stop, cited, mode⟩
    · rcases held : request.automationHoldEngaged with _ | _
      · rfl
      -- a hold that is not denied is on the recovery path
      by_cases recovery : request.automationHoldRecovery = true
      · exact absurd ⟨held, recovery⟩ notRecovery
      · exact absurd ⟨held, recovery⟩ notHeld
    · cases signal : request.upstreamSignal with
      | none => rfl
      | some signal' => cases signal' with
        | deny => exact absurd signal notDenied
        | abstain => exact absurd signal notAbstained
  · intro admissible
    refine ⟨?_, ?_, admissible.exemption, ?_, ?_, admissible.reversible, admissible.blastRadius,
      admissible.fresh, ⟨admissible.once, admissible.preconditions⟩,
      ⟨admissible.stopCondition, admissible.citingRules⟩, admissible.mode⟩
    · simp [admissible.hold]
    · simp [admissible.signal]
    · simp [admissible.signal]
    · simp [admissible.hold]

/-! ## More signals -/

/-- **More restrictive signals**: at another gate, with other exemptions and promotions, the
second request has a hold, an upstream signal, an exemption or an irreversible action where the
first one has, a blast radius and an age of the inventory that are no smaller, and no mode
that the first one has not. -/
structure Restricts (gate : RiskGate) (request : RiskRequest) (gate' : RiskGate)
    (request' : RiskRequest) : Prop where
  sameGate : gate' = { gate with exemptions := gate'.exemptions, registry := gate'.registry }
  sameRequest : request' = { request with
    action.blastRadius := request'.action.blastRadius
    actionType.irreversible := request'.actionType.irreversible
    inventoryAgeSeconds := request'.inventoryAgeSeconds
    automationHoldEngaged := request'.automationHoldEngaged
    automationHoldRecovery := request'.automationHoldRecovery
    upstreamSignal := request'.upstreamSignal }
  hold : request.automationHoldEngaged = true → request'.automationHoldEngaged = true
  signal : request.upstreamSignal.isSome → request'.upstreamSignal.isSome
  exemption : ∀ rule ref group, (gate.exemptions rule ref group).isSome →
    (gate'.exemptions rule ref group).isSome
  irreversible : request.actionType.irreversible = true → request'.actionType.irreversible = true
  /-- A count is no smaller, and one that is unknown stays so, of no smaller a scope. -/
  count : match request.action.blastRadius.count, request'.action.blastRadius.count with
    | some count, some count' => count ≤ count'
    | none, none => request.action.blastRadius.scope ≠ .resource →
        request'.action.blastRadius.scope ≠ .resource
    | _, _ => False
  rate : ∀ rate ∈ request.action.blastRadius.ratePerMinute,
    ∃ rate' ∈ request'.action.blastRadius.ratePerMinute, rate ≤ rate'
  age : ∀ age' ∈ request'.inventoryAgeSeconds, ∃ age ∈ request.inventoryAgeSeconds, age ≤ age'
  mode : ∀ name, gate'.registry.modeOf name = .enforce → gate.registry.modeOf name = .enforce
  developmentMode : ∀ profileDigest name clock,
    gate'.registry.developmentModeOf profileDigest name clock = .ok .enforce →
      gate.registry.developmentModeOf profileDigest name clock = .ok .enforce

/-- **No signal admits an action.** -/
theorem Restricts.admissible (restricts : Restricts gate request gate' request')
    (admissible : Admissible gate' request') : Admissible gate request := by
  have config : gate'.config = gate.config := by rw [restricts.sameGate]
  have lower : gate'.lower = gate.lower := by rw [restricts.sameGate]
  have clock : gate'.modeClock = gate.modeClock := by rw [restricts.sameGate]
  have action : request'.action = { request.action with
      blastRadius := request'.action.blastRadius } :=
    congrArg RiskRequest.action restricts.sameRequest
  have actionType : request'.actionType = { request.actionType with
      irreversible := request'.actionType.irreversible } :=
    congrArg RiskRequest.actionType restricts.sameRequest
  have evaluations : request'.preconditionEvaluations = request.preconditionEvaluations := by
    rw [restricts.sameRequest]
  have preconditions : request'.actionType.preconditions = request.actionType.preconditions := by
    rw [actionType]
  have citingRules : request'.action.citingRules = request.action.citingRules := by rw [action]
  have target : request'.action.targetResourceRef = request.action.targetResourceRef := by
    rw [action]
  constructor
  case hold =>
    rcases held : request.automationHoldEngaged with _ | _
    · rfl
    have held' := restricts.hold held
    rw [admissible.hold] at held'
    cases held'
  case signal =>
    rcases signal : request.upstreamSignal with _ | _
    · rfl
    have signal' := restricts.signal (by rw [signal]; rfl)
    rw [admissible.signal] at signal'
    cases signal'
  case exemption =>
    intro rule isCited
    have noExemption := admissible.exemption rule (citingRules ▸ isCited)
    rw [target, lower] at noExemption
    by_contra exempt
    have exempt' := restricts.exemption rule _ _ (Option.isSome_iff_ne_none.2 exempt)
    rw [noExemption] at exempt'
    cases exempt'
  case reversible =>
    rcases isIrreversible : request.actionType.irreversible with _ | _
    · rfl
    have isIrreversible' := restricts.irreversible isIrreversible
    rw [admissible.reversible] at isIrreversible'
    cases isIrreversible'
  case blastRadius =>
    have acceptable := admissible.blastRadius
    have counts := restricts.count
    rw [config] at acceptable
    refine ⟨fun count isCount => ?_, fun unknown => ?_, fun rate isRate => ?_⟩
    · rw [Option.mem_def.1 isCount] at counts
      cases count' : request'.action.blastRadius.count with
      | none =>
        rw [count'] at counts
        exact counts.elim
      | some larger =>
        rw [count'] at counts
        exact le_trans counts (acceptable.count larger count')
    · rw [unknown] at counts
      cases count' : request'.action.blastRadius.count with
      | none =>
        rw [count'] at counts
        by_contra wide
        exact counts wide (acceptable.bounded count')
      | some larger =>
        rw [count'] at counts
        exact counts.elim
    · obtain ⟨rate', isRate', smaller⟩ := restricts.rate rate isRate
      exact smaller.trans (acceptable.rate rate' isRate')
  case fresh =>
    intro isDeclared
    have fresh := admissible.fresh
    unfold FreshEnough declaredAges at fresh
    rw [preconditions, config] at fresh
    obtain ⟨age', isAge', belowCap, declared, isAges, some_age, below⟩ := fresh isDeclared
    obtain ⟨age, isAge, younger⟩ := restricts.age age' isAge'
    exact ⟨age, isAge, younger.trans belowCap, declared, isAges, some_age,
      fun limit isLimit => younger.trans (below limit isLimit)⟩
  case once => exact evaluations ▸ admissible.once
  case preconditions => exact evaluations ▸ preconditions ▸ admissible.preconditions
  case stopCondition =>
    have stop := admissible.stopCondition
    rw [action] at stop
    exact stop
  case citingRules => exact citingRules ▸ admissible.citingRules
  case mode =>
    have mode := admissible.mode
    have name : request'.actionType.name = request.actionType.name := by rw [actionType]
    have authority : request'.developmentAuthority = request.developmentAuthority := by
      rw [restricts.sameRequest]
    -- the development evidence is about no signal
    have current (evidence : Supplied DevelopmentAuthorityEnvelope) :
        gate'.currentProfileDigest request'.action request'.actionType evidence =
          gate.currentProfileDigest request.action request.actionType evidence := by
      rw [restricts.sameGate, action, actionType]
      rfl
    unfold ModeAdmits at mode ⊢
    rw [authority] at mode
    rcases isAuthority : request.developmentAuthority with _ | evidence
    · rw [isAuthority] at mode
      dsimp only at mode ⊢
      rw [name, config] at mode
      exact ⟨mode.1, restricts.mode _ mode.2⟩
    rw [isAuthority] at mode
    dsimp only at mode ⊢
    obtain ⟨profileDigest, isCurrent, isMode⟩ := mode
    rw [current] at isCurrent
    rw [name, clock] at isMode
    exact ⟨profileDigest, isCurrent, restricts.developmentMode _ _ _ isMode⟩

/-- **What an additional evaluation can do**: only the first one of a precondition that is
matched admits an action. -/
theorem additional_evaluation {before after : List PreconditionEvaluation}
    {evaluation : PreconditionEvaluation}
    (evaluations : request.preconditionEvaluations = before ++ after)
    (admissible : Admissible gate
      { request with preconditionEvaluations := before ++ evaluation :: after }) :
    (∀ other ∈ request.preconditionEvaluations, other.conditionIndex ≠ evaluation.conditionIndex) ∧
    (¬ Matched request.actionType.preconditions evaluation.conditionIndex →
      Admissible gate request) := by
  have once : ((before ++ evaluation :: after).map (·.conditionIndex)).Nodup := admissible.once
  have met : PreconditionsMet request.actionType.preconditions (before ++ evaluation :: after) :=
    admissible.preconditions
  rw [List.map_append, List.map_cons, List.nodup_middle, List.nodup_cons, ← List.map_append,
    ← evaluations] at once
  refine ⟨fun other isOther same => once.1 (List.mem_map.2 ⟨other, isOther, same⟩),
    fun unmatched => ?_⟩
  refine ⟨admissible.hold, admissible.signal, admissible.exemption, admissible.reversible,
    admissible.blastRadius, admissible.fresh, once.2, ?_, admissible.stopCondition,
    admissible.citingRules, admissible.mode⟩
  intro index precondition isIndex matters
  obtain ⟨found, isFound, same, sameKind, satisfied⟩ := met index precondition isIndex matters
  refine ⟨found, ?_, same, sameKind, satisfied⟩
  rw [evaluations]
  rcases List.mem_append.1 isFound with isBefore | isAfter
  · exact List.mem_append_left _ isBefore
  rcases List.mem_cons.1 isAfter with rfl | isAfter
  · exact absurd ⟨precondition, same ▸ isIndex, matters⟩ unmatched
  · exact List.mem_append_right _ isAfter

end

/-- **What is admitted, and what does not change it.** -/
structure AdmitsExactly (gate : RiskGate) (request : RiskRequest) : Prop where
  admits_iff : gate.admits request ↔ Admissible gate request
  signals : ∀ gate' request', Restricts gate request gate' request' →
    gate'.admits request' → gate.admits request
  /-- An additional evaluation, wherever it is put, admits an action only as the first one of
  a precondition that is matched. -/
  evaluations : ∀ before evaluation after, request.preconditionEvaluations = before ++ after →
    gate.admits { request with preconditionEvaluations := before ++ evaluation :: after } →
    ¬ gate.admits request → Matched request.actionType.preconditions evaluation.conditionIndex ∧
        ∀ other ∈ request.preconditionEvaluations, other.conditionIndex ≠ evaluation.conditionIndex

/-- **The gate admits exactly what is admissible**, and no signal and no superfluous evaluation
admits an action. -/
theorem auto_exactly (gate : RiskGate) (request : RiskRequest) : AdmitsExactly gate request where
  admits_iff := admits_iff
  signals _ _ restricts admitted :=
    admits_iff.2 (restricts.admissible (admits_iff.1 admitted))
  evaluations before evaluation after split admitted notAdmitted := by
    obtain ⟨fresh, unmatched⟩ := additional_evaluation split (admits_iff.1 admitted)
    refine ⟨?_, fresh⟩
    by_contra isUnmatched
    exact notAdmitted (admits_iff.2 (unmatched isUnmatched))

/-- A gate that has promoted every action type, with no exemption. -/
private def promotedGate : RiskGate :=
  { config := {}, registry := { records := fun _ => some .enforce }
    exemptions := fun _ _ _ => none }

/-- One resource is restarted; the inventory has to be of the last quarter of an hour. -/
private def restartRequest : RiskRequest :=
  { action :=
      { actionId := "a", idempotencyKey := "k", targetResourceRef := "vm", paramsDigest := none
        stopCondition := "error_rate_above", rollbackKind := .snapshotRestore
        blastRadius := { scope := .resource, count := some 1 }, citingRules := ["r"] }
    actionType :=
      { name := "restart", version := "1.0.0", operation := .restart
        rollbackContract := .snapshotRestore, contentDigest := .text "d"
        preconditions := [⟨.graphFreshWithinSeconds, .int 900⟩] }
    inventoryAgeSeconds := some 60 }

/-- **A declared precondition without an evaluation.** -/
theorem auto_without_evaluation : ¬ ∀ gate request, RiskGate.admits gate request →
    ∀ index precondition, request.actionType.preconditions[index]? = some precondition →
      ∃ evaluation ∈ request.preconditionEvaluations,
        evaluation.conditionIndex = index ∧ evaluation.satisfied = true := by
  intro evaluated
  obtain ⟨evaluation, isEvaluation, -⟩ :=
    evaluated promotedGate restartRequest ⟨⟨.auto, "a", .enforce, []⟩, rfl, rfl⟩ 0
      ⟨.graphFreshWithinSeconds, .int 900⟩ rfl
  cases isEvaluation

end Fdai.Core.RiskGating
