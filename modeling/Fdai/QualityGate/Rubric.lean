import Mathlib.Data.List.Sort
import Mathlib.Data.String.Basic
import Fdai.QualityGate.Candidate

/-!
# The rubric

A judge scores the reasoning of a candidate by criteria; the scores become one verdict.

* `RubricScore` — a score, with the threshold it has to reach.
* `evaluateRubricOutput` — the verdict; checking whether a citation is on topic may raise.
-/

namespace Fdai.Core.QualityGate

/-- The values of `RubricCriterion`. -/
def rubricCriteria : List String :=
  ["faithfulness", "evidence_action_alignment", "completeness", "reasoning_coherence"]

inductive RubricVerdict where
  | pass | fail | abstain

def RubricVerdict.value : RubricVerdict → String
  | .pass => "pass"
  | .fail => "fail"
  | .abstain => "abstain"

/-- The fields of a `RubricScore`. -/
structure RubricScoreFields where
  criterion : String
  score : PyFloat
  threshold : PyFloat
  rationale : String
  supportingRuleIds : List String := []

/-- `RubricScore.__post_init__`. -/
def RubricScoreFields.check (fields : RubricScoreFields) : Except String Unit :=
  validate [ ((PyFloat.finite 0).le fields.score && fields.score.le (.finite 1),
      "RubricScore.score MUST be in [0.0, 1.0]"),
    ((PyFloat.finite 0).le fields.threshold && fields.threshold.le (.finite 1),
      "RubricScore.threshold MUST be in [0.0, 1.0]"),
    (!isBlank fields.criterion, "RubricScore.criterion MUST be non-empty"),
    (!isBlank fields.rationale, "RubricScore.rationale MUST be non-empty - the audit trail " ++
      "requires a rendered reason for each rubric score")]

abbrev RubricScore := Valid RubricScoreFields.check

def RubricScoreFields.passed (fields : RubricScoreFields) : Bool :=
  fields.threshold.le fields.score

structure RubricDecision where
  verdict : RubricVerdict
  minScore : PyFloat
  failedCriteria : List String := []
  scores : List RubricScore := []
  reasons : List String := []

/-- `min` of scores. -/
def minScore (first : RubricScore) (rest : List RubricScore) : PyFloat :=
  rest.foldl (fun least score => if score.val.score.lt least then score.val.score else least)
    first.val.score

/-- A verdict to abstain. -/
def rubricAbstain (scores : List RubricScore) (reasons : List String) : RubricDecision :=
  ⟨.abstain, .finite 0, [], scores, reasons⟩

/-- The citations of scores, each with the criterion it is for. -/
def scoreCitations (scores : List RubricScore) : List (String × String) :=
  scores.flatMap fun score => score.val.supportingRuleIds.map fun rule =>
    (score.val.criterion, rule)

/-- The criteria whose citation does not support the candidate. -/
def offTopic (supports : String → Except Raised Bool) :
    List (String × String) → Except Raised (List String)
  | [] => .ok []
  | (criterion, rule) :: rest => do
    let onTopic ← supports rule
    let others ← offTopic supports rest
    return if onTopic then others else criterion :: others

def evaluateRubricOutput (scores : List RubricScore) (knownRuleIds requiredCriteria : List String)
    (knownCriteria : Option (List String)) (supports : Option (String → Except Raised Bool)) :
    Except Raised RubricDecision :=
  match scores with
  | [] => .ok (rubricAbstain [] ["no_scores"])
  | first :: rest =>
    let criteriaSeen := scores.map (·.val.criterion)
    let duplicates := (criteriaSeen.filter fun criterion =>
      1 < criteriaSeen.count criterion).dedup.insertionSort (· ≤ ·)
    if !duplicates.isEmpty then
      .ok (rubricAbstain scores (duplicates.map ("duplicate_criterion:" ++ ·)))
    else
      let unknownCriteria := match knownCriteria with
        | some valid => criteriaSeen.filter (· ∉ valid)
        | none => []
      if !unknownCriteria.isEmpty then
        .ok (rubricAbstain scores (unknownCriteria.map ("unknown_criterion:" ++ ·)))
      else
        let missing := requiredCriteria.filter (· ∉ criteriaSeen)
        if !missing.isEmpty then
          .ok (rubricAbstain scores (missing.map ("missing_criterion:" ++ ·)))
        else
          let ungrounded := ((scoreCitations scores).filter (·.2 ∉ knownRuleIds)).map Prod.fst
          if !ungrounded.isEmpty then
            .ok (rubricAbstain scores (ungrounded.map ("ungrounded_score:" ++ ·)))
          else do
            let offTopic ← match supports with
              | some supports => offTopic supports (scoreCitations scores)
              | none => pure []
            if !offTopic.isEmpty then
              return rubricAbstain scores (offTopic.map ("off_topic_score:" ++ ·))
            else
              let failed := (scores.filter (!·.val.passed)).map (·.val.criterion)
              if !failed.isEmpty then
                return ⟨.fail, minScore first rest, failed, scores,
                  failed.map ("below_threshold:" ++ ·)⟩
              else
                return ⟨.pass, minScore first rest, [], scores, []⟩

end Fdai.Core.QualityGate
