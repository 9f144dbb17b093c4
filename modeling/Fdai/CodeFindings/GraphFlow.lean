import Mathlib.Data.Finset.Insert
import Mathlib.Data.List.MinMax
import Mathlib.Data.Prod.Lex
import Mathlib.Data.String.Basic
import Fdai.CodeFindings.CodeGraph
import Fdai.Sequences.Keyed
import Fdai.Sequences.SortedBy

/-!
# From flow edges to path evidence

The traversal of a code graph: from every occurrence of a source, along flow edges, to the first sink.
An occurrence is a node in a role and a call context.

* `containingFunction` — the innermost function around a source.
* `pathId` — what identifies a path: the rule, and of each step what survives a shift of lines.
* `walk`, `visit` — the traversal, within limits; a limit that is hit is recorded.
* `materializeGraphPaths` — the evidence of every path that was found.
-/

namespace Fdai.Core.CodeFindings

open Fdai.Providers (Digest)
open Fdai.Sequences

structure GraphFlowLimits where
  maxPaths : ℤ := 5000
  maxSteps : ℤ := 256
  maxOperations : ℤ := 1000000

structure GraphFlowResult where
  graph : CodeGraphArtifact
  paths : List PathEvidence

def operationLimit : String := "graph-flow.operation-limit"

def stepLimit : String := "graph-flow.step-limit"

def pathLimit : String := "graph-flow.path-limit"

structure Occurrence where
  nodeId : String
  role : PathStepRole
  context : List String
  deriving DecidableEq

/-- The order of occurrences. -/
def Occurrence.key (occurrence : Occurrence) : String ×ₗ String ×ₗ List String :=
  toLex (occurrence.nodeId, toLex (occurrence.role.value, occurrence.context))

namespace CodeGraphArtifact

/-- `nodes`, by id. -/
def node (graph : CodeGraphArtifact) (nodeId : String) : Option CodeGraphNode :=
  graph.nodes.find? fun node => node.nodeId = nodeId

/-- The flow edges, each from one occurrence to another. -/
def flows (graph : CodeGraphArtifact) : Except String (List (Occurrence × Occurrence)) :=
  (graph.edges.filter fun edge => edge.kind = .flowsTo).mapM fun edge =>
    match edge.sourceRole, edge.targetRole with
    | some sourceRole, some targetRole =>
      .ok (⟨edge.sourceId, sourceRole, edge.sourceContext⟩,
        ⟨edge.targetId, targetRole, edge.targetContext⟩)
    | _, _ => .error "flow edge lacks contextual occurrence metadata"

end CodeGraphArtifact

/-- `adjacency.get(…, ())`. -/
def adjacency (flows : List (Occurrence × Occurrence)) (occurrence : Occurrence) :
    List Occurrence :=
  sortedBy Occurrence.key ((flows.filter fun flow => flow.1 = occurrence).map Prod.snd)

-- the order of ℤ that computes
local instance lineOrder : Preorder ℤ := Int.instLinearOrder.toPreorder

def containingFunction (source : CodeGraphNode) (functions : List CodeGraphNode) : Option String :=
  match source.span with
  | none => none
  | some span =>
    let candidates := functions.filterMap fun function =>
      match function.span with
      | none => none
      | some around =>
        if around.path = span.path ∧ toLex (around.startLine, around.startColumn) ≤
              toLex (span.startLine, span.startColumn) ∧
            toLex (span.startLine, span.startColumn) ≤ toLex (around.endLine, around.endColumn) then
          some (toLex ((around.endLine : ℤ) - around.startLine, function.nodeId))
        else none
    (candidates.argmin id).map fun selected => (ofLex selected).2

def pathId (graph : CodeGraphArtifact) (rule : CodeSecurityRuleSpec)
    (steps : List PathEvidenceStep) : Digest :=
  .ofFields [.text rule.ruleId, .text rule.version, .ofFields (steps.map fun step =>
    match graph.node step.nodeId with
    | none => .none
    | some node => .ofFields [.text node.kind.value, .text node.name, .text step.span.path,
        .text step.role.value, .ofTexts step.callContext])]

/-! ## The traversal -/

/-- What the traversal keeps. -/
structure Traversal where
  candidates : List (List PathEvidenceStep) := []
  coverage : Finset String
  operations : ℕ := 0

namespace Traversal

/-- `coverage.add(…)`. -/
def limited (state : Traversal) (limit : String) : Traversal :=
  { state with coverage := insert limit state.coverage }

/-- One operation more. -/
def operate (state : Traversal) : Traversal := { state with operations := state.operations + 1 }

def found (limits : GraphFlowLimits) (state : Traversal) (steps : List PathEvidenceStep) :
    Traversal :=
  if (state.candidates.length : ℤ) < limits.maxPaths then
    { state with candidates := state.candidates ++ [steps] }
  else state.limited pathLimit

end Traversal

section

variable (graph : CodeGraphArtifact) (flows : List (Occurrence × Occurrence))
variable (limits : GraphFlowLimits)

def stepAt (occurrence : Occurrence) (span : SourceSpan) : PathEvidenceStep :=
  ⟨occurrence.nodeId, occurrence.role, span, occurrence.context⟩

def spanOf (occurrence : Occurrence) : Option SourceSpan :=
  (graph.node occurrence.nodeId).bind (·.span)

/-- The loop of `walk` over the targets of an occurrence, with what it does at a target that is no
sink. -/
def visit (descend : Occurrence → List PathEvidenceStep → List (Occurrence × Occurrence) → Traversal →
      Traversal) (occurrence : Occurrence) (steps : List PathEvidenceStep)
    (visited : List (Occurrence × Occurrence)) : List Occurrence → Traversal → Traversal
  | [], state => state
  | target :: targets, state =>
    let state := state.operate
    if limits.maxOperations < state.operations then state.limited operationLimit
    else if (occurrence, target) ∈ visited then
      visit descend occurrence steps visited targets state
    else
      match spanOf graph target with
      | none => visit descend occurrence steps visited targets state
      | some span =>
        let nextSteps := steps ++ [stepAt target span]
        if target.role = .sink then
          visit descend occurrence steps visited targets (state.found limits nextSteps)
        else
          visit descend occurrence steps visited targets
            (descend target nextSteps ((occurrence, target) :: visited) state)

/-- `walk`, where so many steps more are allowed. -/
def walk : ℕ → Occurrence → List PathEvidenceStep → List (Occurrence × Occurrence) → Traversal →
    Traversal
  | remaining, occurrence, steps, visited, state =>
    if limits.maxOperations ≤ state.operations then state.limited operationLimit
    else
      match remaining with
      | 0 => state.limited stepLimit
      | remaining + 1 =>
        visit graph limits (walk remaining) occurrence steps visited
          (adjacency flows occurrence) state

/-- The occurrences from which the traversal starts, each with its first step. -/
def starts : List (Occurrence × PathEvidenceStep) :=
  (sortedBy (·.nodeId) (graph.nodes.filter fun node => node.kind = .source)).flatMap fun source =>
    match source.span with
    | none => []
    | some span =>
      let fallbackContext :=
        (containingFunction source (graph.nodes.filter fun node => node.kind = .function)).toList
      (sortedBy Occurrence.key ((flows.map Prod.fst).dedup.filter fun occurrence =>
          occurrence.nodeId = source.nodeId && occurrence.role = .source)).map fun occurrence =>
        (occurrence, ⟨source.nodeId, .source, span,
          if occurrence.context = [] then fallbackContext else occurrence.context⟩)

/-- The whole traversal. -/
def traverse : Traversal :=
  (starts graph flows).foldl (fun state (occurrence, first) =>
      walk graph flows limits (limits.maxSteps - 1).toNat occurrence [first] [] state)
    { coverage := graph.coverageLimits.toFinset }

end

def evidenceOf (graph : CodeGraphArtifact) (rule : CodeSecurityRuleSpec)
    (steps : List PathEvidenceStep) : PathEvidence where
  pathId := pathId graph rule steps
  revision := graph.revision
  graphDigest := graph.digest
  ruleId := rule.ruleId
  ruleVersion := rule.version
  steps := steps
  sanitizersConsidered := (rule.selectors.filterMap fun selector =>
    if selector.role = "sanitizer" then selector.securityContext else none).insertionSort (· ≤ ·)
  coverageLimits := graph.coverageLimits

/-- **`materialize_graph_paths`**, with the hexadecimal text of a digest, by which paths are sorted. -/
def materializeGraphPaths (hexdigest : Digest → String) (graph : CodeGraphArtifact)
    (rule : CodeSecurityRuleSpec) (limits : GraphFlowLimits := {}) :
    Except String GraphFlowResult := do
  let flows ← graph.flows
  let traversal := traverse graph flows limits
  let resultGraph := { graph with coverageLimits := sortedTexts traversal.coverage }
  let evidence ← traversal.candidates.mapM fun steps => do
    let evidence := evidenceOf resultGraph rule steps
    evidence.check
    return evidence
  let unique := Keyed.ofList PathEvidence.pathId evidence
  return ⟨resultGraph, sortedBy (fun path => hexdigest path.pathId) unique.values⟩

end Fdai.Core.CodeFindings
