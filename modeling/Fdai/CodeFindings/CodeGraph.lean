import Fdai.Providers.Checks
import Fdai.Providers.Digest

/-!
# Code graphs and path evidence

The records of the code-security analysis: a graph of the code of one revision, the rule that is
looked for, and the evidence of a path through the graph.

* `CodeGraphArtifact` — nodes with ids of their own, and edges between them.
* `PathEvidence` — a path from a source to a sink, with the checks of its constructor.

Identifiers, versions and digests are checked where a record is built from outside; here they are
texts. What a digest is taken of is all of a record.
-/

namespace Fdai.Core.CodeFindings

open Fdai.Providers (Digest)

/-! ## Nodes and edges -/

inductive GraphNodeKind where
  | file | function | symbol | callSite | basicBlock | dataFlow | source | sink | sanitizer
  deriving DecidableEq

def GraphNodeKind.value : GraphNodeKind → String
  | .file => "file"
  | .function => "function"
  | .symbol => "symbol"
  | .callSite => "call_site"
  | .basicBlock => "basic_block"
  | .dataFlow => "data_flow"
  | .source => "source"
  | .sink => "sink"
  | .sanitizer => "sanitizer"

inductive GraphEdgeKind where
  | declares | calls | controls | defines | uses | flowsTo | argumentTo | returnsTo | aliases
  | sanitizesFor
  deriving DecidableEq

def GraphEdgeKind.value : GraphEdgeKind → String
  | .declares => "declares"
  | .calls => "calls"
  | .controls => "controls"
  | .defines => "defines"
  | .uses => "uses"
  | .flowsTo => "flows_to"
  | .argumentTo => "argument_to"
  | .returnsTo => "returns_to"
  | .aliases => "aliases"
  | .sanitizesFor => "sanitizes_for"

inductive PathStepRole where
  | source | flow | call | «return» | sanitizer | sink
  deriving DecidableEq

def PathStepRole.value : PathStepRole → String
  | .source => "source"
  | .flow => "flow"
  | .call => "call"
  | .return => "return"
  | .sanitizer => "sanitizer"
  | .sink => "sink"

structure SourceSpan where
  path : String
  startLine : ℕ
  startColumn : ℕ := 1
  endLine : ℕ
  endColumn : ℕ := 1
  positive : 1 ≤ startLine ∧ 1 ≤ startColumn ∧ 1 ≤ endLine ∧ 1 ≤ endColumn
  ordered : startLine < endLine ∨ startLine = endLine ∧ startColumn ≤ endColumn
  deriving DecidableEq

structure CodeGraphNode where
  nodeId : String
  kind : GraphNodeKind
  name : String
  span : Option SourceSpan := none
  typeStatus : String := "unknown"
  typeName : Option String := none

/-- `CodeGraphEdge`. Its provenance is given by the digest of it. -/
structure CodeGraphEdge where
  edgeId : String
  kind : GraphEdgeKind
  sourceId : String
  targetId : String
  provenance : Digest
  parameterIndex : Option ℕ := none
  securityContext : Option String := none
  sourceRole : Option PathStepRole := none
  targetRole : Option PathStepRole := none
  sourceContext : List String := []
  targetContext : List String := []
  /-- `_edge_fields_match_kind`, of the fields of a flow. -/
  flow : kind = .flowsTo → sourceRole ≠ none ∧ targetRole ≠ none

structure CodeGraphArtifact where
  revision : String
  buildContextDigest : String
  frameworkModelDigest : String
  frontendVersions : List (String × String)
  nodes : List CodeGraphNode
  edges : List CodeGraphEdge := []
  coverageLimits : List String := []
  uniqueNodes : (nodes.map (·.nodeId)).Nodup
  /-- Every edge is between nodes of the graph. -/
  closed : ∀ edge ∈ edges, edge.sourceId ∈ nodes.map (·.nodeId) ∧
    edge.targetId ∈ nodes.map (·.nodeId)

/-- `RuleSelector`, as far as it is read: its role, and what it sanitizes. -/
structure RuleSelector where
  role : String
  securityContext : Option String := none

/-- `CodeSecurityRuleSpec`, as far as it is read. -/
structure CodeSecurityRuleSpec where
  ruleId : String
  version : String
  selectors : List RuleSelector

/-- The digest of a text that may be absent. -/
def ofOption : Option String → Digest
  | none => .none
  | some value => .pair (.text value) .none

def SourceSpan.digest (span : SourceSpan) : Digest :=
  .ofFields [.text span.path, .num span.startLine, .num span.startColumn, .num span.endLine,
    .num span.endColumn]

def CodeGraphNode.digest (node : CodeGraphNode) : Digest :=
  .ofFields [.text node.nodeId, .text node.kind.value, .text node.name,
    (node.span.map SourceSpan.digest).getD .none, .text node.typeStatus, ofOption node.typeName]

def CodeGraphEdge.digest (edge : CodeGraphEdge) : Digest :=
  .ofFields [.text edge.edgeId, .text edge.kind.value, .text edge.sourceId, .text edge.targetId,
    edge.provenance, (edge.parameterIndex.map .num).getD .none, ofOption edge.securityContext,
    ofOption (edge.sourceRole.map PathStepRole.value),
    ofOption (edge.targetRole.map PathStepRole.value), .ofTexts edge.sourceContext,
    .ofTexts edge.targetContext]

/-- `digest()` of a graph. -/
def CodeGraphArtifact.digest (graph : CodeGraphArtifact) : Digest :=
  .ofFields [.text "1.1.0", .text graph.revision, .text graph.buildContextDigest,
    .text graph.frameworkModelDigest,
    .ofFields (graph.frontendVersions.map fun (frontend, version) =>
      .pair (.text frontend) (.text version)),
    .ofFields (graph.nodes.map CodeGraphNode.digest),
    .ofFields (graph.edges.map CodeGraphEdge.digest), .ofTexts graph.coverageLimits]

structure PathEvidenceStep where
  nodeId : String
  role : PathStepRole
  span : SourceSpan
  callContext : List String := []
  deriving DecidableEq

/-- What two steps of a path must not share. -/
def PathEvidenceStep.contextual (step : PathEvidenceStep) : String × PathStepRole × List String :=
  (step.nodeId, step.role, step.callContext)

structure PathEvidence where
  pathId : Digest
  revision : String
  graphDigest : Digest
  ruleId : String
  ruleVersion : String
  steps : List PathEvidenceStep
  sanitizersConsidered : List String := []
  coverageLimits : List String := []

/-- The checks of the constructor. -/
def PathEvidence.check (evidence : PathEvidence) : Except String Unit :=
  validate [
    (2 ≤ evidence.steps.length, "steps: Tuple should have at least 2 items after validation"),
    (evidence.steps.length ≤ 256, "steps: Tuple should have at most 256 items after validation"),
    (evidence.steps.head?.map (·.role) = some .source, "path evidence must start at a source"),
    (evidence.steps.getLast?.map (·.role) = some .sink, "path evidence must end at a sink"),
    ((evidence.steps.map PathEvidenceStep.contextual).Nodup,
      "path evidence cannot repeat the same contextual step")]

end Fdai.Core.CodeFindings
