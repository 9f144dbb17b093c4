import Fdai.Providers.Time
import Fdai.QualityGate.Debate
import Fdai.QualityGate.EscalationLadder
import Fdai.QualityGate.Rubric

/-!
# The quality gate

Seven legs look at a candidate: a verifier, independent evidence, the grounding of its citations, a
cross-check by several models, a debate on their disagreement, an escalation ladder and a rubric. Each
leg adds reasons against the candidate, and the outcome is read off the reasons.

* `QualityGate` — the configuration, as the constructor accepts it; `Ports` — what the legs call.
* `deterministicEvidence`, `verifyGrounding`, `crossCheckCandidate`, `rubricLeg` — the legs.
* `evaluateSnapshot`, `evaluate` — the evaluation.

Of several models that raise, the reason names the first in order. The observer of a cross-check round
changes nothing and is left out.
-/

namespace Fdai.Core.QualityGate

inductive QualityOutcome where
  | eligible | abstain | disagree | deny

structure CrossCheckProposal where
  actionType : String
  params : Mapping
  promptReplayManifest : Option String := none

structure ModelVote where
  modelId : String
  proposedActionType : String
  agreed : Bool
  promptReplayManifest : Option String := none

inductive DeterministicEvidenceKind where
  | whatIf | security
  deriving DecidableEq

namespace DeterministicEvidenceKind

def value : DeterministicEvidenceKind → String
  | .whatIf => "what_if"
  | .security => "security"

/-- The kinds, in the order of the enumeration. -/
def all : List DeterministicEvidenceKind := [.whatIf, .security]

end DeterministicEvidenceKind

inductive DeterministicEvidenceStatus where
  | passed | failed | unavailable | conflict
  deriving DecidableEq

def DeterministicEvidenceStatus.value : DeterministicEvidenceStatus → String
  | .passed => "passed"
  | .failed => "failed"
  | .unavailable => "unavailable"
  | .conflict => "conflict"

/-- What the gate reads of a `DeterministicVerifierEvidence`; its constructor takes aware times only. -/
structure DeterministicVerifierEvidence where
  kind : DeterministicEvidenceKind
  status : DeterministicEvidenceStatus
  candidateDigest : String
  observedAt : ℤ
  expiresAt : ℤ
  synthetic : Bool := false

/-- `_deterministic_evidence_rejection_reason`. -/
def evidenceRejectionReason (evidence : DeterministicVerifierEvidence)
    (expectedKind : DeterministicEvidenceKind) (candidateDigest : String) (evaluatedAt : ℤ) :
    Option String :=
  if evidence.kind ≠ expectedKind then some (expectedKind.value ++ "_evidence_kind_mismatch")
  else if evidence.candidateDigest ≠ candidateDigest then
    some (expectedKind.value ++ "_evidence_candidate_mismatch")
  else if evidence.synthetic then some (expectedKind.value ++ "_evidence_synthetic")
  else if evidence.observedAt > evaluatedAt then
    some (expectedKind.value ++ "_evidence_from_future")
  else if evidence.expiresAt < evaluatedAt then some (expectedKind.value ++ "_evidence_stale")
  else if evidence.status ≠ .passed then
    some (expectedKind.value ++ "_evidence_" ++ evidence.status.value)
  else none

/-- The fields of a `QualityGate` and of its `QualityGateConfig`. A model is its instance and its id;
a debate orchestrator is its `max_rounds`. -/
structure QualityGateFields where
  confidenceThreshold : PyFloat := .ofRat (7 / 10)
  requireGrounding : Bool := true
  requireCrossCheckQuorum : ℤ := 2
  rubricShadow : Bool := true
  rubricRequiredCriteria : List String := []
  models : List (ℕ × String)
  debateOrchestrator : Option ℕ := none
  debateRouterConfig : Option DebateRouterConfig := none
  hasRubric : Bool := false
  hasRubricModeResolver : Bool := false
  escalationLadderConfig : Option EscalationLadderConfig := none
  escalatedAvailable : Bool := false
  evidenceKinds : Option (List DeterministicEvidenceKind) := none

/-- Whether a model id is bounded, not empty, ASCII and without blanks. -/
def wellFormedModelId (modelId : String) : Bool :=
  modelId ≠ "" && modelId.length ≤ 256 && modelId.toList.all fun char =>
    char.toNat < 128 && !isSpace char

/-- `QualityGate.__init__`. -/
def QualityGateFields.check (fields : QualityGateFields) : Except String Unit :=
  validate [ ((PyFloat.finite 0).le fields.confidenceThreshold &&
        fields.confidenceThreshold.le (.finite 1),
      "confidence_threshold MUST be in [0.0, 1.0]"),
    (1 ≤ fields.requireCrossCheckQuorum, "require_cross_check_quorum MUST be >= 1"),
    (fields.requireCrossCheckQuorum ≤ fields.models.length,
      "not enough cross-check models registered for the configured quorum"),
    ((fields.models.map Prod.fst).Nodup, "cross-check models MUST be distinct instances"),
    ((fields.models.map Prod.snd).all wellFormedModelId,
      "cross-check models MUST declare bounded non-empty ASCII model ids"),
    ((fields.models.map Prod.snd).Nodup, "cross-check models MUST declare distinct model ids"),
    (fields.debateOrchestrator.isNone == fields.debateRouterConfig.isNone,
      "debate_orchestrator and debate_router_config MUST be provided together (both, or neither)"),
    (fields.evidenceKinds.all fun supplied =>
        DeterministicEvidenceKind.all.all (· ∈ supplied),
      "deterministic evidence verifiers MUST bind exactly what_if and security")]

set_option linter.dupNamespace false in
/-- A gate that was constructed. -/
abbrev QualityGate := Valid QualityGateFields.check

/-- What the legs call; every port answers or raises. A model is known by its id. -/
structure Ports where
  verify : QualityCandidate → Except Raised (Option Bool)
  evidenceClock : Datetime
  evidence : DeterministicEvidenceKind → QualityCandidate →
    Except Raised DeterministicVerifierEvidence
  knownRuleIds : Except Raised (List String)
  /-- `supports`, where the grounding source has it. -/
  supports : Option (QualityCandidate → String → Except Raised Bool)
  propose : String → QualityCandidate → Except Raised CrossCheckProposal
  debate : DebateRoles
  /-- Whether the mode is to enforce, and why. -/
  rubricMode : String → Except Raised (Bool × String)
  /-- The same predicate when the rubric leg asks it. -/
  rubricSupports : Option (QualityCandidate → String → Except Raised Bool)
  score : QualityCandidate → Except Raised (List RubricScore)

structure QualityDecision where
  outcome : QualityOutcome
  candidate : QualityCandidate
  reasons : List String := []
  groundedRuleIds : List String := []
  aggregateConfidence : PyFloat := .finite 0
  deterministicEvidence : List DeterministicVerifierEvidence := []
  modelVotes : List ModelVote := []
  rubricScores : List RubricScore := []
  rubricMinScore : Option PyFloat := none
  rubricVerdict : Option String := none
  rubricShadow : Bool := false
  rubricModeReason : Option String := none
  escalationRoute : Option String := none
  escalationReason : Option String := none
  escalationMetadata : List (String × String) := []
  selfConsistency : Option Value := none

section Evaluation

variable (platform : Platform) (gate : QualityGateFields) (ports : Ports)
  (candidate : QualityCandidate)

/-! ## The legs -/

/-- The loop over the kinds of evidence: what was gathered, and the outcome and the reason if one of
them stops the evaluation. -/
def evidenceLoop (candidateDigest : String) (evaluatedAt : ℤ) :
    List DeterministicEvidenceKind → List DeterministicVerifierEvidence →
      List DeterministicVerifierEvidence × Option (QualityOutcome × String)
  | [], gathered => (gathered, none)
  | kind :: rest, gathered =>
    match ports.evidence kind candidate with
    | .error raised =>
      (gathered, some (.abstain, kind.value ++ "_evidence_error:" ++ raised.name))
    | .ok evidence =>
      match evidenceRejectionReason evidence kind candidateDigest evaluatedAt with
      | none => evidenceLoop candidateDigest evaluatedAt rest (gathered ++ [evidence])
      | some reason =>
        (gathered ++ [evidence],
          some (if evidence.status = .failed then .deny else .abstain, reason))

/-- The evidence leg. -/
def deterministicEvidence :
    Except Raised (List DeterministicVerifierEvidence × Option (QualityOutcome × String)) :=
  match gate.evidenceKinds with
  | none => .ok ([], none)
  | some _ =>
    match ports.evidenceClock.instant? with
    | none => .error ⟨"ValueError", "quality gate evidence clock MUST include timezone"⟩
    | some evaluatedAt => do
      let candidateDigest ← qualityCandidateDigest platform candidate
      return evidenceLoop ports candidate candidateDigest evaluatedAt
        DeterministicEvidenceKind.all []

/-- The reason against a citation, if there is one. -/
def citationReason (known : List String) (ruleId : String) : Option String :=
  if ruleId ∉ known then some ("unknown_cited_rule:" ++ ruleId)
  else
    match ports.supports with
    | none => none
    | some supports =>
      match supports candidate ruleId with
      | .error raised => some ("grounding_error:" ++ ruleId ++ ":" ++ raised.name)
      | .ok true => none
      | .ok false => some ("ungrounded_citation:" ++ ruleId)

/-- `verify_grounding`: the rules that are grounded, and the reasons. -/
def verifyGrounding (known : List String) : List String × List String :=
  let grounded := candidate.citedRuleIds.filter fun ruleId =>
    (citationReason ports candidate known ruleId).isNone
  let reasons := candidate.citedRuleIds.filterMap (citationReason ports candidate known)
  (grounded, reasons ++ if gate.requireGrounding && grounded.isEmpty then
    ["no_grounded_citation"] else [])

def proposeModel (modelId : String) : Except Raised CrossCheckProposal := do
  let proposal ← ports.propose modelId candidate
  let params ← snapshotCandidateParams platform candidate proposal.params
  return { proposal with params := params }

/-- Whether a proposal is the candidate's action, with its parameters. -/
def proposalAgrees (expectedDigest : String) (proposal : CrossCheckProposal) : Except Raised Bool :=
  if proposal.actionType = candidate.actionType then do
    let digest ← qualityCandidateDigest platform { candidate with params := proposal.params }
    return digest = expectedDigest
  else .ok false

def modelVote (expectedDigest : String) (modelId : String) (proposal : CrossCheckProposal) :
    Except Raised ModelVote := do
  let agreed ← proposalAgrees platform candidate expectedDigest proposal
  return ⟨modelId, proposal.actionType, agreed, proposal.promptReplayManifest⟩

structure CrossCheckResult where
  votes : List ModelVote
  agreeCount : ℕ
  firstProposerOutput : Option ProposerOutput

/-- `cross_check_candidate`: every model has to propose before there is a vote. -/
def crossCheckCandidate : Except Raised CrossCheckResult := do
  let baseline ← snapshotQualityCandidate platform candidate
  let expected ← evaluationIdentity platform baseline
  let modelIds := gate.models.map Prod.snd
  let proposals ← modelIds.mapM (proposeModel platform ports baseline)
  let found ← evaluationIdentity platform candidate
  if found ≠ expected then
    throw ⟨"ValueError", "cross-check candidate changed during verification"⟩
  else
    let votes ← (modelIds.zip proposals).mapM fun entry =>
      modelVote platform baseline expected.1 entry.1 entry.2
    return ⟨votes, votes.countP (·.agreed),
      proposals.head?.map fun proposal => (proposal.actionType, proposal.params)⟩

/-- The cross-check leg: one that raises has no votes, and a reason. -/
def crossCheckLeg : CrossCheckResult × List String :=
  match crossCheckCandidate platform gate ports candidate with
  | .ok result => (result, [])
  | .error raised => (⟨[], 0, none⟩, ["cross_check_failed:" ++ raised.name])

/-- `_rubric_mode`: whether the rubric is only observed, and why. -/
def rubricMode : Bool × Option String :=
  if !gate.hasRubric || gate.rubricShadow then (gate.rubricShadow, none)
  else if !gate.hasRubricModeResolver then (false, none)
  else
    match ports.rubricMode candidate.actionType with
    | .error raised => (true, some ("rubric_mode_resolver_error:" ++ raised.name))
    | .ok (enforce, reason) => (!enforce, some reason)

/-- The scoring of a candidate: the rubric evaluator and the reduction of its scores. -/
def scoreRubric (known : List String) : Except Raised RubricDecision := do
  let scores ← ports.score candidate
  let required := if gate.rubricRequiredCriteria.isEmpty then rubricCriteria
    else gate.rubricRequiredCriteria
  evaluateRubricOutput scores known required (some rubricCriteria)
    (ports.rubricSupports.map fun supports => supports candidate)

/-- What the rubric leg finds. -/
structure RubricLeg where
  scores : List RubricScore := []
  minScore : Option PyFloat := none
  verdict : Option RubricVerdict := none
  /-- The reason it adds when it is enforced. -/
  reason : Option String := none

/-- The rubric leg, but for its mode. -/
def rubricLeg (known : List String) : RubricLeg :=
  if !gate.hasRubric then {}
  else if isBlank candidate.reasoningTrace then
    ⟨[], some (.finite 0), some .abstain, some "rubric_no_reasoning_trace"⟩
  else
    match scoreRubric gate ports candidate known with
    | .error raised =>
      ⟨[], some (.finite 0), some .abstain, some ("rubric_evaluator_error:" ++ raised.name)⟩
    | .ok decision =>
      ⟨decision.scores, some decision.minScore, some decision.verdict,
        match decision.verdict with
        | .pass => none
        | .fail => some ("rubric_failed:" ++ String.intercalate "," decision.failedCriteria)
        | .abstain => some ("rubric_abstained:" ++ String.intercalate "," decision.reasons)⟩

/-- `min` of two confidences. -/
def lowered (confidence : PyFloat) : Option PyFloat → PyFloat
  | none => confidence
  | some least => if least.lt confidence then least else confidence

/-- `reason.startswith("cross_check_below_quorum")`. -/
def saysBelowQuorum (reason : String) : Bool :=
  "cross_check_below_quorum".toList.isPrefixOf reason.toList

def decideOutcome (reasons : List String) : QualityOutcome :=
  if reasons.any saysBelowQuorum then .disagree
  else if reasons ≠ [] then .abstain
  else .eligible

def stabilitySignalKey : String := "action_stability"

/-- `candidate.confidence_signals.get(STABILITY_SIGNAL_KEY)`. -/
def stabilitySignal : Option Value :=
  match candidate.confidenceSignals.lookup stabilitySignalKey with
  | some .null => none
  | signal => signal

/-- The ladder leg: nothing without a configuration. -/
def escalationLeg (crossCheckDisagreed : Bool) (ontologyImprovementAttempts : ℤ) :
    Except Raised (Option EscalationDecision) :=
  match gate.escalationLadderConfig with
  | none => .ok none
  | some config => do
    let decision ← decideEscalation candidate crossCheckDisagreed gate.escalatedAvailable .secondary
      (stabilitySignal candidate) ontologyImprovementAttempts config
    return some decision

def evaluateSnapshot (ontologyImprovementAttempts : ℤ) : Except Raised QualityDecision := do
  let verdict ← ports.verify candidate
  if verdict = some false then
    let confidence ← candidate.aggregateConfidence platform
    return { outcome := .deny, candidate := candidate, reasons := ["verifier_rejected"],
             aggregateConfidence := confidence }
  else
    let verifierReasons := if verdict = none then ["verifier_abstained"] else []
    let (evidence, stopped) ← deterministicEvidence platform gate ports candidate
    match stopped with
    | some (outcome, reason) =>
      let confidence ← candidate.aggregateConfidence platform
      return { outcome := outcome, candidate := candidate, reasons := [reason],
               aggregateConfidence := confidence, deterministicEvidence := evidence }
    | none =>
      let known ← ports.knownRuleIds
      let (grounded, groundingReasons) := verifyGrounding gate ports candidate known
      let (crossCheck, crossCheckReasons) := crossCheckLeg platform gate ports candidate
      let belowQuorum : Bool := crossCheck.agreeCount < gate.requireCrossCheckQuorum
      let quorumReasons := if belowQuorum then
        ["cross_check_below_quorum:agree=" ++ toString crossCheck.agreeCount ++ "<quorum=" ++
          toString gate.requireCrossCheckQuorum] else []
      let debate := if belowQuorum then
        resolveDisagreement ports.debate candidate known gate.debateOrchestrator
          gate.debateRouterConfig crossCheck.firstProposerOutput else ⟨false, []⟩
      let escalation ← escalationLeg gate candidate (belowQuorum && !debate.resolved)
        ontologyImprovementAttempts
      let (shadow, modeReason) := rubricMode gate ports candidate
      let rubric := rubricLeg gate ports candidate known
      let rubricReasons := if shadow then [] else rubric.reason.toList
      let aggregate ← candidate.aggregateConfidence platform
      let confidence := if shadow then aggregate else lowered aggregate rubric.minScore
      let confidenceReasons := if confidence.lt gate.confidenceThreshold then
        ["confidence=" ++ platform.fixed2 confidence ++ "<threshold=" ++
          platform.fixed2 gate.confidenceThreshold] else []
      let reasons := verifierReasons ++ groundingReasons ++ crossCheckReasons ++ quorumReasons ++
        debate.reasons ++ rubricReasons ++ confidenceReasons
      return {
        outcome := decideOutcome reasons, candidate := candidate, reasons := reasons,
        groundedRuleIds := grounded, aggregateConfidence := confidence,
        deterministicEvidence := evidence, modelVotes := crossCheck.votes,
        rubricScores := rubric.scores, rubricMinScore := rubric.minScore,
        rubricVerdict := rubric.verdict.map RubricVerdict.value,
        rubricShadow := gate.hasRubric && shadow,
        rubricModeReason := if gate.hasRubric then modeReason else none,
        escalationRoute := escalation.map (·.route.value),
        escalationReason := escalation.map (·.reason),
        escalationMetadata := (escalation.map (·.metadata)).getD [],
        selfConsistency := if gate.escalationLadderConfig.isSome then
          stabilitySignal candidate else none }

/-- `evaluate`, through `evaluate_candidate_snapshot`. -/
def evaluate (ontologyImprovementAttempts : ℤ) : Except Raised QualityDecision :=
  let owned : Except Raised _ := do
    let baseline ← snapshotQualityCandidate platform candidate
    let identity ← evaluationIdentity platform baseline
    let working ← snapshotQualityCandidate platform baseline
    return (baseline, identity, working)
  match owned with
  | .error raised =>
    .ok { outcome := .abstain, candidate := candidate,
          reasons := ["candidate_snapshot_invalid:" ++ raised.name] }
  | .ok (baseline, identity, working) => do
    let decision ← evaluateSnapshot platform gate ports working ontologyImprovementAttempts
    let same (other : QualityCandidate) : Bool :=
      match evaluationIdentity platform other with
      | .ok found => found = identity
      | .error _ => false
    if same candidate && same working && same decision.candidate then
      return { decision with candidate := baseline }
    else
      return { outcome := .abstain, candidate := baseline,
               reasons := ["candidate_changed_during_verification"] }

end Evaluation

end Fdai.Core.QualityGate
