import Fdai.QualityGate.Candidate

/-!
# The escalation ladder

Whether a disagreement is worth a stronger model. The gate records the answer and does not act on it.

* `decideEscalation` — the policy, in order of precedence.
* `decideEscalation_total` — when it answers.
-/

namespace Fdai.Core.QualityGate

inductive EscalationTier where
  | primary | secondary | escalated

inductive EscalationRoute where
  | escalate | stop

def EscalationRoute.value : EscalationRoute → String
  | .escalate => "escalate"
  | .stop => "stop"

/-- The fields of an `EscalationLadderConfig`. -/
structure EscalationLadderFields where
  enabled : Bool := true
  onCrossCheckDisagreement : Bool := true
  onSelfConsistencyBelow : Option PyFloat := none
  minimumOntologyImprovementAttempts : ℤ := 10
  alwaysForActionTypes : List String := []
  neverForActionTypes : List String := []

/-- `EscalationLadderConfig.__post_init__`. -/
def EscalationLadderFields.check (config : EscalationLadderFields) : Except String Unit :=
  validate [ (config.onSelfConsistencyBelow.all fun below =>
        (PyFloat.finite 0).le below && below.le (.finite 1),
      "on_self_consistency_below MUST be in [0.0, 1.0] or None"),
    (1 ≤ config.minimumOntologyImprovementAttempts,
      "minimum_ontology_improvement_attempts MUST be an integer >= 1"),
    (config.alwaysForActionTypes.all (· ∉ config.neverForActionTypes),
      "EscalationLadderConfig: always/never allowlists MUST be disjoint")]

abbrev EscalationLadderConfig := Valid EscalationLadderFields.check

structure EscalationDecision where
  route : EscalationRoute
  reason : String
  actionType : String
  fromTier : EscalationTier
  toTier : Option EscalationTier := none
  metadata : List (String × String) := []

def nextTier : EscalationTier → Option EscalationTier
  | .primary => some .secondary
  | .secondary => some .escalated
  | .escalated => none

/-- `self_consistency < threshold`: only numbers can be compared. -/
def signalBelow (signal : Value) (threshold : PyFloat) : Except Raised Bool :=
  match signal.number with
  | some number => .ok (number.lt threshold)
  | none => .error ⟨"TypeError", "'<' not supported between instances"⟩

/-- What triggers an escalation, if anything does. -/
def escalationTrigger (config : EscalationLadderFields) (actionType : String)
    (crossCheckDisagreed : Bool) (selfConsistency : Option Value) :
    Except Raised (Option String) :=
  if actionType ∈ config.alwaysForActionTypes then .ok (some "always_list")
  else if crossCheckDisagreed && config.onCrossCheckDisagreement then
    .ok (some "cross_check_disagreement")
  else
    match config.onSelfConsistencyBelow, selfConsistency with
    | some threshold, some signal => do
      if ← signalBelow signal threshold then return some "low_self_consistency" else return none
    | _, _ => .ok none

def decideEscalation (candidate : QualityCandidate) (crossCheckDisagreed escalatedAvailable : Bool)
    (currentTier : EscalationTier) (selfConsistency : Option Value)
    (ontologyImprovementAttempts : ℤ) (config : EscalationLadderConfig) :
    Except Raised EscalationDecision :=
  if ontologyImprovementAttempts < 0 then
    .error ⟨"ValueError", "ontology_improvement_attempts MUST be an integer >= 0"⟩
  else
    let cfg := config.val
    let improvementMetadata := [
      ("ontology_improvement_attempts", toString ontologyImprovementAttempts),
      ("minimum_ontology_improvement_attempts", toString cfg.minimumOntologyImprovementAttempts)]
    let stop (reason : String) : EscalationDecision :=
      ⟨.stop, reason, candidate.actionType, currentTier, none, improvementMetadata⟩
    if !escalatedAvailable then .ok (stop "escalated_model_unavailable")
    else if !cfg.enabled then .ok (stop "disabled")
    else
      match nextTier currentTier with
      | none => .ok (stop "at_ceiling")
      | some toTier =>
        if candidate.actionType ∈ cfg.neverForActionTypes then .ok (stop "never_list")
        else do
          match ← escalationTrigger cfg candidate.actionType crossCheckDisagreed
              selfConsistency with
          | none => return stop "default_stop"
          | some trigger =>
            if ontologyImprovementAttempts < cfg.minimumOntologyImprovementAttempts then
              return stop "ontology_improvement_budget_remaining"
            else
              return ⟨.escalate, trigger, candidate.actionType, currentTier, some toTier,
                improvementMetadata⟩

/-- **The ladder answers** for every attempt count that is not negative and every stability signal that
is absent or a number. -/
theorem decideEscalation_total (candidate : QualityCandidate)
    (crossCheckDisagreed escalatedAvailable : Bool) (currentTier : EscalationTier)
    {selfConsistency : Option Value} {ontologyImprovementAttempts : ℤ}
    (config : EscalationLadderConfig) (counted : 0 ≤ ontologyImprovementAttempts)
    (isNumber : ∀ signal ∈ selfConsistency, signal.number.isSome = true) :
    ∃ decision, decideEscalation candidate crossCheckDisagreed escalatedAvailable currentTier
      selfConsistency ontologyImprovementAttempts config = .ok decision := by
  have triggers : ∃ trigger, escalationTrigger config.val candidate.actionType crossCheckDisagreed
      selfConsistency = .ok trigger := by
    unfold escalationTrigger
    split
    · exact ⟨_, rfl⟩
    split
    · exact ⟨_, rfl⟩
    rcases config.val.onSelfConsistencyBelow with _ | threshold
    · exact ⟨_, rfl⟩
    rcases selfConsistency with _ | signal
    · exact ⟨_, rfl⟩
    obtain ⟨number, isValue⟩ := Option.isSome_iff_exists.1 (isNumber signal rfl)
    dsimp only
    unfold signalBelow
    rw [isValue]
    show ∃ trigger, ite _ _ _ = Except.ok trigger
    split <;> exact ⟨_, rfl⟩
  obtain ⟨trigger, isTrigger⟩ := triggers
  unfold decideEscalation
  rw [if_neg counted.not_gt]
  dsimp only
  rw [isTrigger]
  split
  · exact ⟨_, rfl⟩
  split
  · exact ⟨_, rfl⟩
  split
  · exact ⟨_, rfl⟩
  split
  · exact ⟨_, rfl⟩
  rcases trigger with _ | trigger
  · exact ⟨_, rfl⟩
  show ∃ decision, ite _ _ _ = Except.ok decision
  split <;> exact ⟨_, rfl⟩

end Fdai.Core.QualityGate
