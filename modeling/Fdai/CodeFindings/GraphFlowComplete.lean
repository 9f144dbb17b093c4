import Fdai.CodeFindings.GraphFlowWalks

/-!
# Every walk has its evidence

A walk is materialized unless a limit is recorded, if the walks of the graph are such that evidence can
hold them: none is longer than evidence may be or comes to one contextual step twice, and no two of
them are identified the same.

* `Materialized` — every walk has exactly one evidence, or a limit is recorded.
* `materialized_iff` — for which graphs this holds, whatever the limits are;
  `walks_lost` — two graphs for which it does not.
-/

namespace Fdai.Core.CodeFindings

open Fdai.Graphs
open Fdai.Providers (Digest)
open Fdai.Sequences

variable {hexdigest : Digest → String} {graph : CodeGraphArtifact} {rule : CodeSecurityRuleSpec}
variable {limits : GraphFlowLimits} {steps steps' : List PathEvidenceStep}

/-- What identifies a step: the kind and the name of its node, its path, its role and its context. -/
def attributesOf (graph : CodeGraphArtifact) (step : PathEvidenceStep) :
    Option (GraphNodeKind × String) × String × PathStepRole × List String :=
  ((graph.node step.nodeId).map fun node => (node.kind, node.name), step.span.path, step.role,
    step.callContext)

theorem GraphNodeKind.value_injective : Function.Injective GraphNodeKind.value := by
  intro kind kind'
  cases kind <;> cases kind' <;> decide

theorem PathStepRole.value_injective : Function.Injective PathStepRole.value := by
  intro role role'
  cases role <;> cases role' <;> decide

theorem ofTexts_injective : Function.Injective Digest.ofTexts := by
  intro texts texts' same
  refine List.map_injective_iff.2 ?_ (Digest.ofFields_injective same)
  intro text text'
  exact Digest.text.inj

/-- The node of every step is known. -/
def Known (graph : CodeGraphArtifact) (steps : List PathEvidenceStep) : Prop :=
  ∀ step ∈ steps, (graph.node step.nodeId).isSome = true

/-- **Paths are identified** by the attributes of their steps. -/
theorem pathId_eq_iff (known : Known graph steps) (known' : Known graph steps') :
    pathId graph rule steps = pathId graph rule steps' ↔
      steps.map (attributesOf graph) = steps'.map (attributesOf graph) := by
  unfold pathId
  simp only [Digest.ofFields_inj, List.cons.injEq, true_and, and_true]
  induction steps generalizing steps' with
  | nil => cases steps' with
    | nil | cons step' steps' => simp
  | cons step steps ih => cases steps' with
    | nil => simp
    | cons step' steps' =>
      have rest := @ih steps' (fun other isStep => known other (List.mem_cons_of_mem _ isStep))
        (fun other isStep => known' other (List.mem_cons_of_mem _ isStep))
      obtain ⟨node, isNode⟩ := Option.isSome_iff_exists.1 (known step List.mem_cons_self)
      obtain ⟨node', isNode'⟩ := Option.isSome_iff_exists.1 (known' step' List.mem_cons_self)
      have first : attributesOf graph step = attributesOf graph step' ↔
          node.kind = node'.kind ∧ node.name = node'.name ∧ step.span.path = step'.span.path ∧
            step.role = step'.role ∧ step.callContext = step'.callContext := by
        simp only [attributesOf, isNode, isNode', Option.map_some, Prod.mk.injEq, Option.some.injEq,
          and_assoc]
      simp only [List.map_cons, List.cons.injEq, rest, first, isNode, isNode', Digest.ofFields_inj,
        Digest.text.injEq, GraphNodeKind.value_injective.eq_iff,
        PathStepRole.value_injective.eq_iff, ofTexts_injective.eq_iff, and_true]

theorem node_of_mem {node : CodeGraphNode} (isNode : node ∈ graph.nodes) :
    (graph.node node.nodeId).isSome = true :=
  List.find?_isSome.2 ⟨node, isNode, decide_eq_true rfl⟩

theorem known_stepsAlong (graph : CodeGraphArtifact) (way : List Occurrence) :
    Known graph (graph.stepsAlong way) := by
  intro step isStep
  obtain ⟨occurrence, -, isStep⟩ := List.mem_filterMap.1 isStep
  obtain ⟨span, isSpan, rfl⟩ := Option.map_eq_some_iff.1 isStep
  obtain ⟨node, isNode, -⟩ := Option.bind_eq_some_iff.1 isSpan
  show (graph.node occurrence.nodeId).isSome = true
  rw [isNode]
  rfl

theorem FlowWalk.known (isWalk : FlowWalk graph steps) : Known graph steps := by
  obtain ⟨start, first, way, isStart, -, rfl⟩ := isWalk
  intro step isStep
  rcases List.mem_cons.1 isStep with rfl | isStep
  · obtain ⟨source, isNode, -, sameNode, -⟩ := isStart.source
    rw [isStart.nodeId, ← sameNode]
    exact node_of_mem isNode
  · exact known_stepsAlong graph way step isStep

/-- **A walk** has a source first, and its only sink last. -/
theorem FlowWalk.ends (isWalk : FlowWalk graph steps) : 2 ≤ steps.length ∧
    steps.head?.map (·.role) = some .source ∧ steps.getLast?.map (·.role) = some .sink := by
  obtain ⟨start, first, way, isStart, trail, rfl⟩ := isWalk
  obtain ⟨through, last, rfl, stops, -⟩ := trail.stops
  obtain ⟨span, isSpan⟩ := Option.isSome_iff_exists.1
    (trail.enters last (List.mem_append_right _ (List.mem_singleton.2 rfl)))
  have along : graph.stepsAlong (through ++ [last]) =
      graph.stepsAlong through ++ [stepAt last span] := by
    unfold CodeGraphArtifact.stepsAlong
    rw [List.filterMap_append, List.filterMap_cons, isSpan]
    rfl
  rw [along]
  refine ⟨?_, ?_, ?_⟩
  · rw [List.length_cons, List.length_append, List.length_singleton]
    omega
  · exact congrArg some isStart.firstRole
  · rw [← List.cons_append, List.getLast?_append_of_ne_nil _ (List.cons_ne_nil _ _)]
    exact congrArg some (of_decide_eq_true stops)

/-- Evidence can be constructed of every walk: it has at most as many steps as evidence may have, and no
two of them at one node, in one role and one context. -/
def Representable (graph : CodeGraphArtifact) : Prop :=
  ∀ steps, FlowWalk graph steps → steps.length ≤ 256 ∧ (steps.map PathEvidenceStep.contextual).Nodup

/-- Walks whose steps have the same attributes are the same. -/
def Distinguished (graph : CodeGraphArtifact) : Prop :=
  ∀ steps steps', FlowWalk graph steps → FlowWalk graph steps' →
    steps.map (attributesOf graph) = steps'.map (attributesOf graph) → steps = steps'

/-- Evidence of a walk passes its checks exactly if it can hold the walk. -/
theorem check_eq_ok_iff (isWalk : FlowWalk graph steps) (resultGraph : CodeGraphArtifact) :
    (evidenceOf resultGraph rule steps).check = .ok () ↔
      steps.length ≤ 256 ∧ (steps.map PathEvidenceStep.contextual).Nodup := by
  obtain ⟨isLong, starts, ends⟩ := isWalk.ends
  unfold PathEvidence.check evidenceOf
  simp only [validate_cons_eq_ok, validate_nil, and_true, decide_eq_true_eq, isLong, starts, ends,
    true_and]

/-- A limit of the traversal is recorded. -/
def Limited (coverageLimits : List String) : Prop :=
  ∃ limit ∈ [operationLimit, stepLimit, pathLimit], limit ∈ coverageLimits

/-- **Every walk is materialized**, by exactly one evidence with its steps, or a limit is recorded. -/
def Materialized (hexdigest : Digest → String) (graph : CodeGraphArtifact)
    (rule : CodeSecurityRuleSpec) (limits : GraphFlowLimits) : Prop :=
  ∃ result, materializeGraphPaths hexdigest graph rule limits = .ok result ∧
    (Limited result.graph.coverageLimits ∨
      ∀ steps, FlowWalk graph steps → result.paths.countP (·.steps = steps) = 1)

/-! ## Materialization -/

section

variable {flows : List (Occurrence × Occurrence)}

def resultGraph (graph : CodeGraphArtifact) (traversal : Traversal) : CodeGraphArtifact :=
  { graph with coverageLimits := sortedTexts traversal.coverage }

/-- Where evidence can be constructed of all that was found, it is kept by its identity. -/
theorem materialize_of_check (isFlows : graph.flows = .ok flows)
    (pass : ∀ steps ∈ (traverse graph flows limits).candidates,
      (evidenceOf (resultGraph graph (traverse graph flows limits)) rule steps).check = .ok ()) :
    materializeGraphPaths hexdigest graph rule limits =
      .ok ⟨resultGraph graph (traverse graph flows limits),
        sortedBy (fun path => hexdigest path.pathId)
          (Keyed.ofList PathEvidence.pathId ((traverse graph flows limits).candidates.map
            (evidenceOf (resultGraph graph (traverse graph flows limits)) rule))).values⟩ := by
  unfold materializeGraphPaths
  rw [isFlows]
  exact bind_eq_ok.2 ⟨flows, rfl, bind_eq_ok.2 ⟨_, mapM_checked pass, rfl⟩⟩

/-- Evidence was constructed of all that was found. -/
theorem check_of_materialize {result : GraphFlowResult} (isFlows : graph.flows = .ok flows)
    (materialized : materializeGraphPaths hexdigest graph rule limits = .ok result) :
    ∀ steps ∈ (traverse graph flows limits).candidates,
      (evidenceOf (resultGraph graph (traverse graph flows limits)) rule steps).check = .ok () := by
  unfold materializeGraphPaths at materialized
  rw [isFlows] at materialized
  obtain ⟨_, same, materialized⟩ := bind_eq_ok.1 materialized
  obtain rfl := Except.ok.inj same
  obtain ⟨evidence, mapped, -⟩ := bind_eq_ok.1 materialized
  intro steps isFound
  obtain ⟨result, isResult⟩ := exists_of_mapM mapped steps isFound
  exact (check_bind_eq_ok.1 isResult).1

end

theorem countP_steps {paths : Keyed PathEvidence.pathId}
    (identified : ∀ path ∈ paths.values, path.pathId = pathId graph rule path.steps)
    (isPath : ∃ path ∈ paths.values, path.steps = steps) :
    paths.values.countP (·.steps = steps) = 1 := by
  refine le_antisymm ?_ (List.one_le_countP_iff.2 ?_)
  · have once := List.nodup_iff_count_le_one.1 paths.nodup (pathId graph rule steps)
    refine le_trans ?_ once
    rw [List.count, List.countP_map]
    refine List.countP_mono_left ?_
    intro path isIn same
    rw [Function.comp_apply, identified path isIn, of_decide_eq_true same]
    exact beq_self_eq_true _
  · obtain ⟨path, isIn, same⟩ := isPath
    exact ⟨path, isIn, decide_eq_true same⟩

theorem limited_iff {coverage : Finset String} :
    Limited (sortedTexts coverage) ↔ ¬ Unlimited coverage := by
  constructor
  · rintro ⟨limit, isLimit, inside⟩ ⟨operations, steps, paths⟩
    rw [mem_sortedTexts] at inside
    simp only [List.mem_cons, List.not_mem_nil, or_false] at isLimit
    rcases isLimit with rfl | rfl | rfl
    · exact operations inside
    · exact steps inside
    · exact paths inside
  · intro limited
    by_contra unlimited
    refine limited ⟨fun inside => unlimited ⟨_, ?_, mem_sortedTexts.2 inside⟩,
      fun inside => unlimited ⟨_, ?_, mem_sortedTexts.2 inside⟩,
      fun inside => unlimited ⟨_, ?_, mem_sortedTexts.2 inside⟩⟩ <;> simp

/-- **Walks that evidence can hold and tell apart** are materialized, whatever the limits are. -/
theorem materialized_of_distinguished (representable : Representable graph)
    (apart : Limited graph.coverageLimits ∨ Distinguished graph) :
    Materialized hexdigest graph rule limits := by
  obtain ⟨flows, isFlows, mem⟩ := flows_eq_ok graph
  have pass : ∀ steps ∈ (traverse graph flows limits).candidates,
      (evidenceOf (resultGraph graph (traverse graph flows limits)) rule steps).check = .ok () := by
    intro steps isFound
    have isWalk := traverse_sound mem isFound
    exact (check_eq_ok_iff isWalk _).2 (representable steps isWalk)
  refine ⟨_, materialize_of_check isFlows pass, ?_⟩
  by_cases unlimited : Unlimited (traverse graph flows limits).coverage
  swap
  · exact .inl (limited_iff.2 unlimited)
  have distinguished : Distinguished graph := by
    rcases apart with ⟨limit, isLimit, inside⟩ | distinguished
    · have grows := @traverseFrom_grows graph flows limits (starts graph flows)
        { coverage := graph.coverageLimits.toFinset }
      exact absurd unlimited (limited_iff.1 ⟨limit, isLimit,
        mem_sortedTexts.2 (grows.coverage (List.mem_toFinset.2 inside))⟩)
    · exact distinguished
  refine .inr fun steps isWalk => ?_
  rw [(perm_sortedBy _ _).countP_eq]
  have fromFound : ∀ path ∈ (Keyed.ofList PathEvidence.pathId
      ((traverse graph flows limits).candidates.map
        (evidenceOf (resultGraph graph (traverse graph flows limits)) rule))).values,
      ∃ found, FlowWalk graph found ∧
        path = evidenceOf (resultGraph graph (traverse graph flows limits)) rule found := by
    intro path isPath
    have isLast := Keyed.get_of_mem isPath
    rw [Keyed.get_ofList] at isLast
    obtain ⟨found, isFound, rfl⟩ :=
      List.mem_map.1 (List.mem_reverse.1 (List.mem_of_find?_eq_some isLast))
    exact ⟨found, traverse_sound mem isFound, rfl⟩
  refine @countP_steps graph rule steps _ ?_ ?_
  · intro path isPath
    obtain ⟨found, -, rfl⟩ := fromFound path isPath
    rfl
  · have isFound := traverseFrom_complete mem isWalk _ unlimited
    have isKey : pathId graph rule steps ∈ (Keyed.ofList PathEvidence.pathId
        ((traverse graph flows limits).candidates.map
          (evidenceOf (resultGraph graph (traverse graph flows limits)) rule))).values.map
            PathEvidence.pathId :=
      Keyed.mem_keys_ofList.2 (List.mem_map.2 ⟨_, List.mem_map_of_mem isFound, rfl⟩)
    obtain ⟨path, isPath, sameId⟩ := List.mem_map.1 isKey
    obtain ⟨found, isWalk', rfl⟩ := fromFound path isPath
    -- The evidence that is kept under the identity of the walk is of this walk.
    have same : pathId graph rule found = pathId graph rule steps := sameId
    exact ⟨_, isPath, distinguished found steps isWalk' isWalk
      ((pathId_eq_iff isWalk'.known isWalk.known).1 same)⟩

/-- **Where some limits let every walk be found**, evidence can hold the walks and tell them apart. -/
theorem distinguished_of_materialized
    (materialized : ∀ limits, Materialized hexdigest graph rule limits) :
    Representable graph ∧ (Limited graph.coverageLimits ∨ Distinguished graph) := by
  obtain ⟨flows, isFlows, mem⟩ := flows_eq_ok graph
  obtain ⟨roomy, all⟩ := traverse_ample mem
  obtain ⟨result, isResult, complete⟩ :=
    materialized (ampleLimits (starts graph flows).length flows.length)
  have pass := check_of_materialize isFlows isResult
  have representable : Representable graph := fun steps isWalk =>
    (check_eq_ok_iff isWalk _).1 (pass steps (all steps isWalk))
  refine ⟨representable, ?_⟩
  obtain rfl := Except.ok.inj ((materialize_of_check isFlows pass).symm.trans isResult)
  rcases complete with ⟨limit, isLimit, inside⟩ | complete
  · refine .inl ⟨limit, isLimit, ?_⟩
    have recorded := mem_sortedTexts.1 inside
    rw [roomy] at recorded
    exact List.mem_toFinset.1 recorded
  refine .inr fun steps steps' isWalk isWalk' sameAttributes => ?_
  have found : ∀ steps, FlowWalk graph steps → ∃ path ∈ (Keyed.ofList PathEvidence.pathId
      ((traverse graph flows (ampleLimits (starts graph flows).length flows.length)).candidates.map
        (evidenceOf (resultGraph graph (traverse graph flows
          (ampleLimits (starts graph flows).length flows.length))) rule))).values,
      path.steps = steps ∧ path.pathId = pathId graph rule steps := by
    intro steps isWalk
    have once := complete steps isWalk
    rw [(perm_sortedBy _ _).countP_eq] at once
    obtain ⟨path, isPath, same⟩ := List.one_le_countP_iff.1 once.ge
    have isLast := Keyed.get_of_mem isPath
    rw [Keyed.get_ofList] at isLast
    obtain ⟨found, isFound, rfl⟩ :=
      List.mem_map.1 (List.mem_reverse.1 (List.mem_of_find?_eq_some isLast))
    have sameSteps : found = steps := of_decide_eq_true same
    exact ⟨_, isPath, sameSteps, by rw [← sameSteps]; rfl⟩
  obtain ⟨path, isPath, rfl, isId⟩ := found steps isWalk
  obtain ⟨path', isPath', rfl, isId'⟩ := found steps' isWalk'
  have sameId : path.pathId = path'.pathId := by
    rw [isId, isId']
    exact (pathId_eq_iff isWalk.known isWalk'.known).2 sameAttributes
  rw [List.inj_on_of_nodup_map (Keyed.nodup _) isPath isPath' sameId]

/-- **For which graphs every walk is materialized**, whatever the limits are. -/
theorem materialized_iff (hexdigest : Digest → String) (graph : CodeGraphArtifact)
    (rule : CodeSecurityRuleSpec) :
    (∀ limits, Materialized hexdigest graph rule limits) ↔
      Representable graph ∧ (Limited graph.coverageLimits ∨ Distinguished graph) :=
  ⟨distinguished_of_materialized, fun ⟨representable, apart⟩ _ =>
    materialized_of_distinguished representable apart⟩

/-- A line of a file. -/
def lineOf (line : ℕ) (positive : 1 ≤ line) : SourceSpan where
  path := "app.py"
  startLine := line
  endLine := line
  positive := ⟨positive, le_refl 1, positive, le_refl 1⟩
  ordered := .inr ⟨rfl, le_refl 1⟩

/-- A flow edge between two nodes. -/
def flowEdge (sourceId targetId : String) (sourceRole targetRole : PathStepRole) :
    CodeGraphEdge where
  edgeId := sourceId ++ ":" ++ targetId
  kind := .flowsTo
  sourceId
  targetId
  provenance := .text "exact"
  sourceRole := some sourceRole
  targetRole := some targetRole
  flow _ := ⟨Option.some_ne_none _, Option.some_ne_none _⟩

/-- A source, two uses of one name, and a sink. -/
def smallNodes : List CodeGraphNode := [
  { nodeId := "source", kind := .source, name := "request.args", span := lineOf 1 Nat.one_pos },
  { nodeId := "first", kind := .dataFlow, name := "value", span := lineOf 2 Nat.two_pos },
  { nodeId := "second", kind := .dataFlow, name := "value", span := lineOf 3 (by decide) },
  { nodeId := "sink", kind := .sink, name := "execute", span := lineOf 4 (Nat.le_add_left 1 3) }]

def smallGraph (edges : List CodeGraphEdge)
    (closed : ∀ edge ∈ edges, edge.sourceId ∈ smallNodes.map (·.nodeId) ∧
      edge.targetId ∈ smallNodes.map (·.nodeId)) : CodeGraphArtifact where
  revision := "a1"
  buildContextDigest := "b1"
  frameworkModelDigest := "f1"
  frontendVersions := [("python", "1.0.0")]
  nodes := smallNodes
  edges
  uniqueNodes := by decide
  closed

/-- Two ways to the sink, through two uses of one name. -/
def branchingGraph : CodeGraphArtifact := smallGraph [
    flowEdge "source" "first" .source .flow, flowEdge "source" "second" .source .flow,
    flowEdge "first" "sink" .flow .sink, flowEdge "second" "sink" .flow .sink] (by decide)

/-- A way to the sink, with a loop. -/
def loopingGraph : CodeGraphArtifact := smallGraph [
    flowEdge "source" "first" .source .flow, flowEdge "first" "second" .flow .flow,
    flowEdge "second" "first" .flow .flow, flowEdge "first" "sink" .flow .sink] (by decide)

def injectionRule : CodeSecurityRuleSpec := ⟨"fdai.python.sql-injection", "1.0.0", []⟩

/-- The steps of a way from the source to the sink. -/
def wayThrough (nodeId : String) (line : ℕ) (positive : 1 ≤ line) : List PathEvidenceStep := [
  { nodeId := "source", role := .source, span := lineOf 1 Nat.one_pos },
  { nodeId, role := .flow, span := lineOf line positive },
  { nodeId := "sink", role := .sink, span := lineOf 4 (Nat.le_add_left 1 3) }]

/-- **Walks without evidence.** Two walks through uses of one name are identified the same, so only the
last one is kept; and a loop that is left again comes to one step twice, so nothing is returned. -/
theorem walks_lost : ¬ Materialized (fun _ => "") branchingGraph injectionRule {} ∧
    ¬ Materialized (fun _ => "") loopingGraph injectionRule {} := by
  constructor
  · rintro ⟨result, isResult, complete⟩
    have isWalk : FlowWalk branchingGraph (wayThrough "first" 2 (by decide)) := by
      obtain ⟨flows, isFlows, mem⟩ := flows_eq_ok branchingGraph
      have isFound : wayThrough "first" 2 (by decide) ∈ (branchingGraph.flows.toOption.map
          fun flows => (traverse branchingGraph flows {}).candidates).getD [] := by decide +kernel
      rw [isFlows] at isFound
      exact traverse_sound mem isFound
    have computed : (materializeGraphPaths (fun _ => "") branchingGraph injectionRule).toOption.map
        (fun result => (result.graph.coverageLimits, result.paths.map (·.steps))) =
          some ([], [wayThrough "second" 3 (by decide)]) := by decide +kernel
    rw [isResult] at computed
    obtain ⟨limits, paths⟩ := Prod.mk.inj (Option.some.inj computed)
    rcases complete with ⟨limit, -, inside⟩ | complete
    · rw [limits] at inside
      cases inside
    have once := complete _ isWalk
    obtain ⟨path, isPath, same⟩ := List.one_le_countP_iff.1 once.ge
    have inside : path.steps ∈ result.paths.map (·.steps) := List.mem_map_of_mem isPath
    rw [paths, of_decide_eq_true same] at inside
    revert inside
    decide +kernel
  · rintro ⟨result, isResult, -⟩
    have computed : (materializeGraphPaths (fun _ => "") loopingGraph injectionRule).toOption.isNone =
        true := by decide +kernel
    rw [isResult] at computed
    cases computed

end Fdai.Core.CodeFindings
