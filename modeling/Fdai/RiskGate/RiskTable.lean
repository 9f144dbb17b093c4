import Fdai.Providers.Value

/-!
# Risk-classification table

The ordered rule table of the risk gate: its loader, with the issues it collects, and its
evaluation, where the first matching rule wins.

* `FeatureVector` — the signals a rule may ask for; an unset signal meets no condition.
* `RiskRule.matchesVector`, `RiskTable.evaluate` — evaluation.
* `loadRiskTableFromMapping` — the loader; a table is returned only where no check of it
  raised an issue.
-/

namespace Fdai.Core

/-- Terminal verdict of the table. -/
inductive RiskLevel where
  | auto | hil | deny
  deriving DecidableEq

namespace RiskLevel

/-- The text of a level in a document. -/
def value : RiskLevel → String
  | .auto => "auto"
  | .hil => "hil"
  | .deny => "deny"

/-- `_LEVEL_STRICTNESS`: the higher, the more permissive. -/
def strictness : RiskLevel → ℕ
  | .deny => 0
  | .hil => 1
  | .auto => 2

end RiskLevel

/-- Signals the table matches against. -/
structure FeatureVector where
  policyViolation : Option Bool := none
  destructive : Option Bool := none
  irreversible : Option Bool := none
  reversible : Option Bool := none
  blastRadius : Option String := none
  rollbackPath : Option String := none
  environment : Option String := none
  dataPlaneTouched : Option Bool := none
  graphStale : Option Bool := none
  crossResourceImpact : Option ℤ := none
  costImpactMonthly : Option PyFloat := none
  verifierConfidence : Option PyFloat := none
  allowlistProdAuto : Option Bool := none

def FeatureVector.asLookup (v : FeatureVector) : List (String × Option Value) :=
  [("policy_violation", v.policyViolation.map .bool), ("destructive", v.destructive.map .bool),
    ("irreversible", v.irreversible.map .bool),
    ("reversible", v.reversible.map .bool),
    ("blast_radius", v.blastRadius.map .str),
    ("rollback_path", v.rollbackPath.map .str),
    ("environment", v.environment.map .str),
    ("data_plane_touched", v.dataPlaneTouched.map .bool),
    ("graph_stale", v.graphStale.map .bool),
    ("cross_resource_impact", v.crossResourceImpact.map .int),
    ("cost_impact_monthly", v.costImpactMonthly.map .float),
    ("verifier_confidence", v.verifierConfidence.map .float),
    ("allowlist_prod_auto", v.allowlistProdAuto.map .bool)]

/-- `lookup.get(key)`. -/
def FeatureVector.signal (v : FeatureVector) (key : String) : Option Value :=
  (v.asLookup.lookup key).join

def knownDimensions : List String :=
  ["policy_violation", "destructive", "irreversible", "reversible", "blast_radius",
    "rollback_path", "environment", "data_plane_touched", "graph_stale",
    "cross_resource_impact", "cost_impact_monthly", "verifier_confidence",
    "allowlist_prod_auto"]

/-- Comparison of a numeric condition. -/
inductive CompareOp where
  | ge | le | gt | lt | eq

/-- One condition of a rule. -/
inductive Condition where
  | equality (key : String) (expected : Value)
  | numericCompare (key : String) (op : CompareOp) (threshold : PyFloat)

namespace Condition

/-- The dimension a condition asks for. -/
def key : Condition → String
  | .equality key _ => key
  | .numericCompare key _ _ => key

/-- `actual <op> threshold`. -/
def compare (actual : PyFloat) (op : CompareOp) (threshold : PyFloat) : Bool :=
  match op with
  | .ge => threshold.le actual
  | .le => actual.le threshold
  | .gt => threshold.lt actual
  | .lt => actual.lt threshold
  | .eq => actual.pyEq threshold

/-- Whether a vector meets the condition. A boolean signal is no number here. -/
def matchesVector (v : FeatureVector) : Condition → Bool
  | .equality key expected => (v.signal key).any (·.pyEq expected)
  | .numericCompare key op threshold =>
    match v.signal key with
    | some (.int z) => compare (.finite z) op threshold
    | some (.float f) => compare f op threshold
    | _ => false

end Condition

/-- One row of the table. -/
structure RiskRule where
  ruleId : String
  decision : RiskLevel
  reason : String
  quorum : ℤ := 1
  isDefault : Bool := false
  conditions : List Condition := []

/-- Whether a rule applies to a vector; a default rule always does. -/
def RiskRule.matchesVector (v : FeatureVector) (rule : RiskRule) : Bool :=
  rule.isDefault || rule.conditions.all (·.matchesVector v)

/-- The dimensions a rule's conditions ask for. -/
def RiskRule.dimensions (rule : RiskRule) : List String := rule.conditions.map (·.key)

structure RiskTableVerdict where
  decision : RiskLevel
  ruleId : String
  quorum : ℤ
  reason : String

def RiskRule.verdict (rule : RiskRule) : RiskTableVerdict :=
  { decision := rule.decision, ruleId := rule.ruleId, quorum := rule.quorum,
    reason := rule.reason }

/-- A loaded table. -/
structure RiskTable where
  version : String
  ownerGroup : String
  rules : List RiskRule

namespace RiskTable

variable (table : RiskTable) (v : FeatureVector)

/-- The rule that decides: the first one that matches. -/
def decidingRule : Option RiskRule := table.rules.find? (·.matchesVector v)

/-- First match wins. Where no rule matches the verdict fails closed. -/
def evaluate : RiskTableVerdict :=
  match table.decidingRule v with
  | some rule => rule.verdict
  | none =>
    { decision := .hil, ruleId := "implicit-default", quorum := 1,
      reason := "no rule matched" }

end RiskTable

/-! ## Loading -/

section Loading

variable (py : Python)

/-- `_COMPARE_RE` on a stripped text: the operator, blanks, a decimal. -/
def compareText (text : String) : Option (CompareOp × PyFloat) :=
  let threshold (op : CompareOp) (rest : List Char) : Option (CompareOp × PyFloat) :=
    (decimal py (rest.dropWhile isSpace)).map fun value => (op, value)
  match (strip text).toList with
  | '>' :: '=' :: rest => threshold .ge rest
  | '<' :: '=' :: rest => threshold .le rest
  | '=' :: '=' :: rest => threshold .eq rest
  | '>' :: rest => threshold .gt rest
  | '<' :: rest => threshold .lt rest
  | _ => none

/-- `_make_condition`: the condition, if any, and the issues. -/
def makeCondition (key : String) (value : Value) : Option Condition × List String :=
  if key ∉ knownDimensions then (none, ["unknown dimension " ++ py.repr (.str key)])
  else match value with
    | .str text =>
      match compareText py text with
      | some (op, threshold) => (some (.numericCompare key op threshold), [])
      | none => (some (.equality key value), [])
    | _ => (some (.equality key value), [])

/-- The entries of an item of `if.all`. -/
def itemEntries : Value → List (Value × Value)
  | .mapping entries => entries
  | _ => []

/-- The issue of an item of `if.all`. -/
def itemIssue : Value → Option String
  | .mapping _ => none
  | _ => some "each `if.all` item MUST be a mapping"

/-- The conditions of the entries of an `if` block. -/
def makeConditions (entries : List (Value × Value)) : List Condition × List String :=
  let made := entries.map fun (entry : Value × Value) =>
    makeCondition py (py.text entry.1) entry.2
  (made.filterMap (·.1), made.flatMap (·.2))

def parseConditions : Value → List Condition × List String
  | .mapping block =>
    match Value.get block "all" with
    | some (.list items) =>
      let (conditions, issues) := makeConditions py (items.flatMap itemEntries)
      (conditions, items.filterMap itemIssue ++ issues)
    | some _ => ([], ["`if.all` MUST be a list"])
    | none => makeConditions py block
  | _ => ([], ["`if` MUST be a mapping"])

/-- `_coerce_level`: what is not a level counts as `hil`, with an issue. -/
def coerceLevel (value : Value) (index : ℕ) : RiskLevel × List String :=
  match value with
  | .str "auto" => (.auto, [])
  | .str "hil" => (.hil, [])
  | .str "deny" => (.deny, [])
  | _ => (.hil, [s!"rule[{index}] decision " ++ py.repr value ++ " is not one of auto/hil/deny"])

/-- The quorum of a rule; one by default. -/
def coerceQuorum (value : Option Value) (index : ℕ) : ℤ × List String :=
  let refused := (1, [s!"rule[{index}] quorum MUST be an integer >= 1"])
  match value with
  | none => (1, [])
  | some (.int quorum) => if quorum < 1 then refused else (quorum, [])
  | some _ => refused

/-- What the loop over the rules has gathered. -/
structure Loading where
  rules : List RiskRule := []
  defaultCount : ℕ := 0
  issues : List String := []

/-- One round of the loop over the rules. -/
def loadRule (loading : Loading) (row : Value × ℕ) : Loading :=
  match row with
  | (.mapping entries, index) =>
    let ruleId := py.text ((Value.get entries "id").getD (.str s!"rule-{index}"))
    let reason := py.text ((Value.get entries "reason").getD (.str ""))
    match Value.get entries "default" with
    | some value =>
      let (decision, issues) := coerceLevel py value index
      { rules := loading.rules ++ [{ ruleId, decision, reason, isDefault := true }]
        defaultCount := loading.defaultCount + 1
        issues := loading.issues ++ issues }
    | none =>
      let (decision, levelIssues) :=
        coerceLevel py ((Value.get entries "decision").getD .null) index
      let (quorum, quorumIssues) := coerceQuorum (Value.get entries "quorum") index
      let (conditions, conditionIssues) :=
        parseConditions py ((Value.get entries "if").getD .null)
      { rules := loading.rules ++ [{ ruleId, decision, reason, quorum, conditions }]
        defaultCount := loading.defaultCount
        issues := loading.issues ++ levelIssues ++ quorumIssues ++ conditionIssues }
  | (_, index) =>
    { loading with issues := loading.issues ++ [s!"rule[{index}] MUST be a mapping"] }

/-- The issue of a rule that stands too late. -/
def orderIssue (rule : RiskRule) : String :=
  "rule " ++ py.repr (.str rule.ruleId) ++ " (" ++ rule.decision.value ++
    ") is out of order: deny rules MUST precede hil, hil MUST precede auto"

/-- `_validate_ordering`, from the strictness seen so far. Default rules are passed over. -/
def validateOrdering : (seenStrictness : ℤ) → List RiskRule → List String
  | _, [] => []
  | seen, rule :: rest =>
    if rule.isDefault then validateOrdering seen rest
    else
      let strict : ℤ := rule.decision.strictness
      (if strict < seen then [orderIssue py rule] else []) ++
        validateOrdering (max seen strict) rest

/-- The issue of a default rule that does not fail toward safety. -/
def defaultIssue (rules : List RiskRule) : List String :=
  match rules.filter (·.isDefault) with
  | rule :: _ =>
    if rule.decision = .auto then
      ["the `default` (fail-close) rule MUST NOT be `auto`; an unmatched event MUST " ++
        "fail toward safety (hil or deny). Otherwise an ActionType with env_scope=any " ++
        "that defers prod handling to this table would auto-execute in prod"]
    else []
  | [] => []

/-- The issue of a field of the document that is no text. -/
def textIssue (field : String) : Option Value → List String
  | some (.str _) => []
  | _ => ["`" ++ field ++ "` MUST be a string"]

/-- The checks on the rules as a whole, in the order of the source. -/
def tableIssues (loading : Loading) : List String :=
  loading.issues ++ validateOrdering py (-1) loading.rules ++ (if loading.defaultCount ≠ 1 then
      [s!"exactly one `default` rule required, found {loading.defaultCount}"] else []) ++
    defaultIssue loading.rules

/-- `load_risk_table_from_mapping`. The error lists the issues. -/
def loadRiskTableFromMapping : Value → Except (List String) RiskTable
  | .mapping raw =>
    let version := Value.get raw "version"
    let ownerGroup := Value.get raw "owner_group"
    let issues := textIssue "version" version ++ textIssue "owner_group" ownerGroup
    match Value.get raw "rules" with
    | some (.list (row :: rows)) =>
      let loading := (row :: rows).zipIdx.foldl (loadRule py) { issues }
      if tableIssues py loading ≠ [] then .error (tableIssues py loading)
      else .ok
        { version := py.text (version.getD .null)
          ownerGroup := py.text (ownerGroup.getD .null)
          rules := loading.rules }
    | _ => .error (issues ++ ["`rules` MUST be a non-empty list"])
  | _ => .error ["top-level document MUST be a mapping"]

end Loading

end Fdai.Core
