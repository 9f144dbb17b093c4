import Fdai.CodeFindings.GraphFlow
import Fdai.Graphs.Trails

/-!
# What the traversal finds

A walk goes from an occurrence of a source along flow edges, none of them twice, to the first sink.

* `visit_sound`, `walk_sound` — what the traversal finds are walks.
* `walk_roomy` — it records none where the limits leave room, `walk_spends` says how much it takes.
* `traverse_sound`, `traverseFrom_complete`, `traverse_ample` — the whole traversal.
-/

namespace Fdai.Core.CodeFindings

open Fdai.Graphs
open Fdai.Sequences

variable {graph : CodeGraphArtifact} {flows : List (Occurrence × Occurrence)}
variable {limits : GraphFlowLimits} {occurrence : Occurrence} {steps found : List PathEvidenceStep}
variable {visited : List (Occurrence × Occurrence)} {state : Traversal} {remaining : ℕ}

namespace CodeGraphArtifact

/-- A flow edge goes from the first occurrence to the second. -/
def Flows (graph : CodeGraphArtifact) (source target : Occurrence) : Prop :=
  ∃ edge ∈ graph.edges, edge.kind = .flowsTo ∧
    edge.sourceId = source.nodeId ∧ edge.sourceRole = some source.role ∧
    edge.sourceContext = source.context ∧ edge.targetId = target.nodeId ∧
    edge.targetRole = some target.role ∧ edge.targetContext = target.context

/-- The flow edges, to occurrences that have a span, up to a sink. -/
def network (graph : CodeGraphArtifact) : Network Occurrence where
  Follows := graph.Flows
  enters occurrence := (spanOf graph occurrence).isSome
  stops occurrence := occurrence.role = .sink

def stepsAlong (graph : CodeGraphArtifact) (way : List Occurrence) : List PathEvidenceStep :=
  way.filterMap fun occurrence => (spanOf graph occurrence).map (stepAt occurrence)

end CodeGraphArtifact

structure StartsAt (graph : CodeGraphArtifact) (start : Occurrence) (first : PathEvidenceStep) :
    Prop where
  source : ∃ source ∈ graph.nodes, source.kind = .source ∧ source.nodeId = start.nodeId ∧
    source.span = some first.span ∧ first.callContext =
      if start.context = [] then
        (containingFunction source (graph.nodes.filter fun node => node.kind = .function)).toList
      else start.context
  role : start.role = .source
  nodeId : first.nodeId = start.nodeId
  firstRole : first.role = .source

/-- **A walk**, by its steps: from an occurrence of a source to its first sink, by no edge twice. -/
def FlowWalk (graph : CodeGraphArtifact) (steps : List PathEvidenceStep) : Prop :=
  ∃ start first way, StartsAt graph start first ∧ graph.network.IsTrail start way ∧
    steps = first :: graph.stepsAlong way

/-- The flow edges are read as they are. -/
theorem flows_eq_ok (graph : CodeGraphArtifact) : ∃ flows, graph.flows = .ok flows ∧
    ∀ source target, (source, target) ∈ flows ↔ graph.Flows source target := by
  unfold CodeGraphArtifact.flows CodeGraphArtifact.Flows
  generalize graph.edges = edges
  induction edges with
  | nil => exact ⟨[], rfl, by simp⟩
  | cons edge edges ih =>
    obtain ⟨flows, isFlows, mem⟩ := ih
    by_cases isFlow : edge.kind = .flowsTo
    swap
    · refine ⟨flows, ?_, ?_⟩
      · rw [List.filter_cons_of_neg (by simp [isFlow])]
        exact isFlows
      · intro source target
        simp [mem, isFlow]
    obtain ⟨someSource, someTarget⟩ := edge.flow isFlow
    obtain ⟨sourceRole, isSource⟩ := Option.ne_none_iff_exists'.1 someSource
    obtain ⟨targetRole, isTarget⟩ := Option.ne_none_iff_exists'.1 someTarget
    refine ⟨(⟨edge.sourceId, sourceRole, edge.sourceContext⟩,
      ⟨edge.targetId, targetRole, edge.targetContext⟩) :: flows, ?_, ?_⟩
    · rw [List.filter_cons_of_pos (by simp [isFlow]), List.mapM_cons, isFlows, isSource, isTarget]
      rfl
    · rintro ⟨sourceId, role, context⟩ ⟨targetId, role', context'⟩
      simp only [List.mem_cons, Prod.mk.injEq, Occurrence.mk.injEq, mem, exists_eq_or_imp, isFlow,
        isSource, isTarget, Option.some.injEq, true_and]
      constructor
      · rintro (⟨⟨rfl, rfl, rfl⟩, rfl, rfl, rfl⟩ | later)
        · exact .inl ⟨rfl, rfl, rfl, rfl, rfl, rfl⟩
        · exact .inr later
      · rintro (⟨rfl, rfl, rfl, rfl, rfl, rfl⟩ | later)
        · exact .inl ⟨⟨rfl, rfl, rfl⟩, rfl, rfl, rfl⟩
        · exact .inr later

variable {target : Occurrence}

theorem mem_adjacency : target ∈ adjacency flows occurrence ↔ (occurrence, target) ∈ flows := by
  unfold adjacency
  rw [mem_sortedBy, List.mem_map]
  constructor
  · rintro ⟨⟨source, other⟩, isFlow, rfl⟩
    obtain ⟨isFlow, same⟩ := List.mem_filter.1 isFlow
    rw [← of_decide_eq_true same]
    exact isFlow
  · intro isFlow
    exact ⟨(occurrence, target), List.mem_filter.2 ⟨isFlow, decide_eq_true rfl⟩, rfl⟩

/-- What the traversal has found more are walks from here. -/
def FindsWalks (graph : CodeGraphArtifact) (visited : List (Occurrence × Occurrence))
    (occurrence : Occurrence) (steps : List PathEvidenceStep) (before after : Traversal) : Prop :=
  ∀ found ∈ after.candidates, found ∈ before.candidates ∨
    ∃ way, graph.network.TrailFrom visited occurrence way ∧ found = steps ++ graph.stepsAlong way

theorem mem_found (isFound : found ∈ (state.found limits steps).candidates) :
    found ∈ state.candidates ∨ found = steps := by
  unfold Traversal.found at isFound
  split at isFound
  · exact (List.mem_append.1 isFound).imp_right List.mem_singleton.1
  · exact .inl isFound

theorem stepsAlong_cons {span : SourceSpan} {way : List Occurrence}
    (isSpan : spanOf graph target = some span) :
    graph.stepsAlong (target :: way) = stepAt target span :: graph.stepsAlong way := by
  unfold CodeGraphArtifact.stepsAlong
  rw [List.filterMap_cons, isSpan]
  rfl

variable {targets : List Occurrence}

section

variable {descend : Occurrence → List PathEvidenceStep → List (Occurrence × Occurrence) →
  Traversal → Traversal}

/-- **One occurrence**: what is found at its targets are walks, if those that go on are. -/
theorem visit_sound (later : ∀ target steps visited state,
      FindsWalks graph visited target steps state (descend target steps visited state))
    (follows : ∀ target ∈ targets, graph.Flows occurrence target) :
    FindsWalks graph visited occurrence steps state
      (visit graph limits descend occurrence steps visited targets state) := by
  induction targets generalizing state with
  | nil => exact fun found isFound => .inl isFound
  | cons target targets ih =>
    have rest : ∀ state, FindsWalks graph visited occurrence steps state
        (visit graph limits descend occurrence steps visited targets state) := fun state =>
      ih fun other isTarget => follows other (List.mem_cons_of_mem _ isTarget)
    have here := follows target List.mem_cons_self
    intro found isFound
    unfold visit at isFound
    dsimp only at isFound
    split at isFound
    · exact .inl isFound
    split at isFound
    · exact rest state.operate found isFound
    rename_i fresh
    rcases isSpan : spanOf graph target with _ | span
    · rw [isSpan] at isFound
      exact rest state.operate found isFound
    rw [isSpan] at isFound
    dsimp only at isFound
    have enters : graph.network.enters target = true := by
      show (spanOf graph target).isSome = true
      rw [isSpan]
      rfl
    split at isFound
    · rename_i isSink
      rcases rest _ found isFound with isOld | isWalk
      · rcases mem_found isOld with isOld | rfl
        · exact .inl isOld
        refine .inr ⟨[target], .stop here fresh enters (decide_eq_true isSink), ?_⟩
        rw [stepsAlong_cons isSpan]
        rfl
      · exact .inr isWalk
    · rename_i notSink
      rcases rest _ found isFound with isOld | isWalk
      · rcases later _ _ _ _ found isOld with isOld | ⟨way, trail, rfl⟩
        · exact .inl isOld
        refine .inr ⟨target :: way, .go here fresh enters (decide_eq_false notSink) trail, ?_⟩
        rw [stepsAlong_cons isSpan, List.append_assoc]
        rfl
      · exact .inr isWalk

end

/-- **What the traversal finds are walks.** -/
theorem walk_sound (isFlows : ∀ source target, (source, target) ∈ flows → graph.Flows source target)
    (remaining : ℕ) : ∀ occurrence steps visited state,
      FindsWalks graph visited occurrence steps state
        (walk graph flows limits remaining occurrence steps visited state) := by
  induction remaining with
  | zero =>
    intro occurrence steps visited state found isFound
    unfold walk at isFound
    split at isFound
    · exact .inl isFound
    · exact .inl isFound
  | succ remaining ih =>
    intro occurrence steps visited state found isFound
    unfold walk at isFound
    split at isFound
    · exact .inl isFound
    · exact visit_sound ih (fun target isTarget => isFlows _ _ (mem_adjacency.1 isTarget)) found
        isFound

/-! ## Complete, or limited -/

/-- What the traversal has, it keeps. -/
structure Grows (before after : Traversal) : Prop where
  candidates : ∀ found ∈ before.candidates, found ∈ after.candidates
  coverage : before.coverage ⊆ after.coverage

theorem Grows.refl (state : Traversal) : Grows state state :=
  ⟨fun _ isFound => isFound, Finset.Subset.refl _⟩

theorem Grows.trans {first second third : Traversal} (grows : Grows first second)
    (grows' : Grows second third) : Grows first third :=
  ⟨fun found isFound => grows'.candidates found (grows.candidates found isFound),
    grows.coverage.trans grows'.coverage⟩

theorem grows_limited (state : Traversal) (limit : String) : Grows state (state.limited limit) :=
  ⟨fun _ isFound => isFound, Finset.subset_insert _ _⟩

theorem grows_found (state : Traversal) (steps : List PathEvidenceStep) :
    Grows state (state.found limits steps) := by
  unfold Traversal.found
  split
  · exact ⟨fun _ isFound => List.mem_append_left _ isFound, Finset.Subset.refl _⟩
  · exact grows_limited _ _

/-- None of the limits of the traversal is recorded. -/
structure Unlimited (coverage : Finset String) : Prop where
  operations : operationLimit ∉ coverage
  steps : stepLimit ∉ coverage
  paths : pathLimit ∉ coverage

theorem Unlimited.of_grows {before after : Traversal} (unlimited : Unlimited after.coverage)
    (grows : Grows before after) : Unlimited before.coverage :=
  ⟨fun inside => unlimited.operations (grows.coverage inside),
    fun inside => unlimited.steps (grows.coverage inside),
    fun inside => unlimited.paths (grows.coverage inside)⟩

section

variable {descend : Occurrence → List PathEvidenceStep → List (Occurrence × Occurrence) →
  Traversal → Traversal}

theorem visit_grows
    (later : ∀ target steps visited state, Grows state (descend target steps visited state)) :
    Grows state (visit graph limits descend occurrence steps visited targets state) := by
  induction targets generalizing state with
  | nil => exact .refl _
  | cons target targets ih =>
    have operate : Grows state state.operate := ⟨fun _ isFound => isFound, Finset.Subset.refl _⟩
    refine operate.trans ?_
    unfold visit
    dsimp only
    split
    · exact grows_limited _ _
    split
    · exact ih
    split
    · exact ih
    split
    · exact (grows_found _ _).trans ih
    · exact (later _ _ _ _).trans ih

/-- **One occurrence**: every walk through its targets is found, if every one that goes on is. -/
theorem visit_complete
    (grows : ∀ target steps visited state, Grows state (descend target steps visited state))
    (later : ∀ target steps visited state, Unlimited (descend target steps visited state).coverage →
      ∀ way, graph.network.TrailFrom visited target way →
        steps ++ graph.stepsAlong way ∈ (descend target steps visited state).candidates)
    (unlimited : Unlimited
      (visit graph limits descend occurrence steps visited targets state).coverage)
    {way : List Occurrence} (isTarget : target ∈ targets)
    (trail : graph.network.TrailFrom visited occurrence (target :: way)) :
    steps ++ graph.stepsAlong (target :: way) ∈
      (visit graph limits descend occurrence steps visited targets state).candidates := by
  induction targets generalizing state with
  | nil => cases isTarget
  | cons other targets ih =>
    unfold visit at unlimited ⊢
    dsimp only at unlimited ⊢
    split at unlimited
    · exact absurd (Finset.mem_insert_self _ _) unlimited.operations
    rename_i operates
    rw [if_neg operates]
    rcases List.mem_cons.1 isTarget with rfl | isTarget
    swap
    · -- The walk starts at a later target.
      split at unlimited
      · rename_i isUsed
        rw [if_pos isUsed]
        exact ih unlimited isTarget
      rename_i fresh
      rw [if_neg fresh]
      split at unlimited
      · exact ih unlimited isTarget
      split at unlimited
      · rename_i isSink
        rw [if_pos isSink]
        exact ih unlimited isTarget
      rename_i notSink
      rw [if_neg notSink]
      exact ih unlimited isTarget
    have goesOn : ∀ state, Grows state
        (visit graph limits descend occurrence steps visited targets state) :=
      fun state => visit_grows grows
    cases trail with
    | stop follows fresh enters stops =>
      rw [if_neg fresh] at unlimited ⊢
      obtain ⟨span, isSpan⟩ := Option.isSome_iff_exists.1 enters
      rw [isSpan] at unlimited ⊢
      have isSink : target.role = .sink := of_decide_eq_true stops
      dsimp only at unlimited ⊢
      rw [if_pos isSink] at unlimited ⊢
      refine (goesOn _).candidates _ ?_
      have room := unlimited.of_grows (goesOn _)
      rw [stepsAlong_cons isSpan]
      unfold Traversal.found at room ⊢
      split at room
      · rename_i fits
        rw [if_pos fits]
        exact List.mem_append_right _ (List.mem_singleton.2 rfl)
      · exact absurd (Finset.mem_insert_self _ _) room.paths
    | go follows fresh enters through trail =>
      rw [if_neg fresh] at unlimited ⊢
      obtain ⟨span, isSpan⟩ := Option.isSome_iff_exists.1 enters
      rw [isSpan] at unlimited ⊢
      have notSink : ¬ target.role = .sink := of_decide_eq_false through
      dsimp only at unlimited ⊢
      rw [if_neg notSink] at unlimited ⊢
      refine (goesOn _).candidates _ ?_
      have isFound := later _ _ _ _ (unlimited.of_grows (goesOn _)) _ trail
      rw [List.append_assoc] at isFound
      rw [stepsAlong_cons isSpan]
      exact isFound

end

theorem walk_grows (remaining : ℕ) : ∀ occurrence steps visited state,
    Grows state (walk graph flows limits remaining occurrence steps visited state) := by
  induction remaining with
  | zero =>
    intro occurrence steps visited state
    unfold walk
    split
    · exact grows_limited _ _
    · exact grows_limited _ _
  | succ remaining ih =>
    intro occurrence steps visited state
    unfold walk
    split
    · exact grows_limited _ _
    · exact visit_grows ih

/-- **Every walk is found**, unless a limit is recorded. -/
theorem walk_complete
    (isFlows : ∀ source target, graph.Flows source target → (source, target) ∈ flows)
    (remaining : ℕ) : ∀ occurrence steps visited state,
      Unlimited (walk graph flows limits remaining occurrence steps visited state).coverage →
        ∀ way, graph.network.TrailFrom visited occurrence way → steps ++ graph.stepsAlong way ∈
            (walk graph flows limits remaining occurrence steps visited state).candidates := by
  induction remaining with
  | zero =>
    intro occurrence steps visited state unlimited
    unfold walk at unlimited
    split at unlimited
    · exact absurd (Finset.mem_insert_self _ _) unlimited.operations
    · exact absurd (Finset.mem_insert_self _ _) unlimited.steps
  | succ remaining ih =>
    intro occurrence steps visited state unlimited way trail
    unfold walk at unlimited ⊢
    split at unlimited
    · exact absurd (Finset.mem_insert_self _ _) unlimited.operations
    rename_i operates
    rw [if_neg operates]
    have follows : ∃ target rest, way = target :: rest ∧ graph.Flows occurrence target := by
      cases trail with
      | stop follows | go follows => exact ⟨_, _, rfl, follows⟩
    obtain ⟨target, rest, rfl, follows⟩ := follows
    exact visit_complete (walk_grows remaining) ih unlimited
      (mem_adjacency.2 (isFlows _ _ follows)) trail

/-! ## Room enough -/

/-- So many operations, and so many paths, at most. -/
structure Spends (before after : Traversal) (amount : ℕ) : Prop where
  operations : after.operations ≤ before.operations + amount
  candidates : after.candidates.length ≤ before.candidates.length + amount

/-- The limits leave room for so many operations and paths. -/
structure Room (limits : GraphFlowLimits) (state : Traversal) (amount : ℕ) : Prop where
  operations : (state.operations + amount : ℤ) < limits.maxOperations
  candidates : (state.candidates.length + amount : ℤ) ≤ limits.maxPaths

theorem Room.less {amount less : ℕ} (room : Room limits state amount) (isLess : less ≤ amount) :
    Room limits state less := by
  obtain ⟨operations, candidates⟩ := room
  constructor
  · omega
  · omega

theorem Room.after {before after : Traversal} {amount more : ℕ}
    (room : Room limits before (amount + more)) (spends : Spends before after amount) :
    Room limits after more := by
  obtain ⟨operations, candidates⟩ := room
  obtain ⟨operations', candidates'⟩ := spends
  constructor
  · push_cast at operations
    omega
  · push_cast at candidates
    omega

theorem spends_found (state : Traversal) (steps : List PathEvidenceStep) :
    Spends state (state.found limits steps) 1 := by
  unfold Traversal.found
  split
  · exact ⟨Nat.le_succ _, by rw [List.length_append, List.length_singleton]⟩
  · exact ⟨Nat.le_succ _, Nat.le_succ _⟩

/-- What a traversal spends, of so many steps through occurrences of so many targets. -/
def spent (width : ℕ) : ℕ → ℕ
  | 0 => 0
  | remaining + 1 => width * (spent width remaining + 1)

/-- The edges that are used differ, and are fewer than the steps that remain allow for. -/
structure Unused (flows visited : List (Occurrence × Occurrence)) (remaining : ℕ) : Prop where
  once : visited.Nodup
  inside : ∀ edge ∈ visited, edge ∈ flows
  left : flows.length < visited.length + remaining

/-- There is a step left. -/
theorem Unused.remaining_pos (unused : Unused flows visited remaining) : 0 < remaining := by
  have fits := (List.subperm_of_subset unused.once unused.inside).length_le
  have left := unused.left
  omega

section

variable {descend : Occurrence → List PathEvidenceStep → List (Occurrence × Occurrence) →
  Traversal → Traversal} {amount : ℕ}

theorem visit_spends (later : ∀ target steps visited state,
      Spends state (descend target steps visited state) amount) :
    Spends state (visit graph limits descend occurrence steps visited targets state)
      (targets.length * (amount + 1)) := by
  induction targets generalizing state with
  | nil => exact ⟨Nat.le_add_right _ _, Nat.le_add_right _ _⟩
  | cons target targets ih =>
    have cost : (target :: targets).length * (amount + 1) =
        targets.length * (amount + 1) + (amount + 1) := by
      rw [List.length_cons, Nat.succ_mul]
    have operate : state.operate.operations = state.operations + 1 := rfl
    have sameCandidates : state.operate.candidates = state.candidates := rfl
    -- What is left of the loop, after at most so much for this target.
    have goesOn : ∀ next, Spends state.operate next amount ∨ Spends state.operate next 1 ∧
        next.operations = state.operate.operations →
        Spends state (visit graph limits descend occurrence steps visited targets next)
          ((target :: targets).length * (amount + 1)) := by
      intro next spends
      obtain ⟨operations, candidates⟩ := @ih next
      rw [cost]
      rcases spends with ⟨operations', candidates'⟩ | ⟨⟨-, candidates'⟩, same⟩
      · constructor
        · omega
        · rw [sameCandidates] at candidates'
          omega
      constructor
      · omega
      · rw [sameCandidates] at candidates'
        omega
    unfold visit
    dsimp only
    split
    · rw [cost]
      constructor
      · show state.operations + 1 ≤ _
        omega
      · exact Nat.le_add_right _ _
    split
    · exact goesOn _ (.inl ⟨Nat.le_add_right _ _, Nat.le_add_right _ _⟩)
    split
    · exact goesOn _ (.inl ⟨Nat.le_add_right _ _, Nat.le_add_right _ _⟩)
    split
    · refine goesOn _ (.inr ⟨spends_found _ _, ?_⟩)
      unfold Traversal.found
      split
      · rfl
      · rfl
    · exact goesOn _ (.inl (later _ _ _ _))

/-- **One occurrence** records no limit where there is room, if what goes on does not. -/
theorem visit_roomy (spends : ∀ target steps visited state,
      Spends state (descend target steps visited state) amount)
    (later : ∀ target steps visited state, Unused flows visited remaining →
      Room limits state amount → (descend target steps visited state).coverage = state.coverage)
    (unused : Unused flows visited (remaining + 1))
    (follows : ∀ target ∈ targets, (occurrence, target) ∈ flows)
    (room : Room limits state (targets.length * (amount + 1))) :
    (visit graph limits descend occurrence steps visited targets state).coverage =
      state.coverage := by
  induction targets generalizing state with
  | nil => rfl
  | cons target targets ih =>
    have follows' : ∀ other ∈ targets, (occurrence, other) ∈ flows :=
      fun other isTarget => follows other (List.mem_cons_of_mem _ isTarget)
    have cost : (target :: targets).length * (amount + 1) =
        1 + (amount + targets.length * (amount + 1)) := by
      rw [List.length_cons, Nat.succ_mul]
      omega
    rw [cost] at room
    have operate : Spends state state.operate 1 := ⟨le_refl _, Nat.le_succ _⟩
    have room' := room.after operate
    have rest := room'.less (Nat.le_add_left _ amount)
    have operates : ¬ limits.maxOperations < state.operate.operations := by
      have operations := (room'.less (Nat.zero_le _)).operations
      omega
    unfold visit
    dsimp only
    rw [if_neg operates]
    split
    · exact ih follows' rest
    rename_i fresh
    split
    · exact ih follows' rest
    split
    · rename_i span _ _
      have fits : (state.operate.candidates.length : ℤ) < limits.maxPaths := by
        have candidates := (room.less (Nat.le_add_right 1 _)).candidates
        exact Int.lt_of_add_one_le candidates
      have isFound : state.operate.found limits (steps ++ [stepAt target span]) =
          { state.operate with
            candidates := state.operate.candidates ++ [steps ++ [stepAt target span]] } := if_pos fits
      rw [isFound]
      refine ih follows' (Room.less (room.after ⟨le_refl _, ?_⟩) (Nat.le_add_left _ amount))
      show (state.candidates ++ [_]).length ≤ _
      rw [List.length_append, List.length_singleton]
    · have unused' : Unused flows ((occurrence, target) :: visited) remaining := by
        refine ⟨List.nodup_cons.2 ⟨fresh, unused.once⟩, ?_, ?_⟩
        · intro edge isEdge
          rcases List.mem_cons.1 isEdge with rfl | isEdge
          · exact follows target List.mem_cons_self
          · exact unused.inside edge isEdge
        · have left := unused.left
          rw [List.length_cons]
          omega
      rw [ih follows' (room'.after (spends _ _ _ _)),
        later _ _ _ _ unused' (room'.less (Nat.le_add_right _ _))]
      rfl

end

/-- How many targets an occurrence has, at most. -/
theorem length_adjacency (occurrence : Occurrence) :
    (adjacency flows occurrence).length ≤ flows.length := by
  unfold adjacency
  rw [(perm_sortedBy _ _).length_eq, List.length_map]
  exact List.length_filter_le _ _

/-- **What a traversal spends** is bounded. -/
theorem walk_spends (remaining : ℕ) : ∀ occurrence steps visited state,
    Spends state (walk graph flows limits remaining occurrence steps visited state)
      (spent flows.length remaining) := by
  induction remaining with
  | zero =>
    intro occurrence steps visited state
    unfold walk
    split
    · exact ⟨Nat.le_add_right _ _, Nat.le_add_right _ _⟩
    · exact ⟨Nat.le_add_right _ _, Nat.le_add_right _ _⟩
  | succ remaining ih =>
    intro occurrence steps visited state
    unfold walk
    split
    · exact ⟨Nat.le_add_right _ _, Nat.le_add_right _ _⟩
    obtain ⟨operations, candidates⟩ := @visit_spends graph limits occurrence steps visited state
      (adjacency flows occurrence) _ _ ih
    have cost : (adjacency flows occurrence).length * (spent flows.length remaining + 1) ≤
        spent flows.length (remaining + 1) := Nat.mul_le_mul_right _ (length_adjacency occurrence)
    exact ⟨operations.trans (Nat.add_le_add_left cost _),
      candidates.trans (Nat.add_le_add_left cost _)⟩

/-- **A traversal that has room** records no limit. -/
theorem walk_roomy (remaining : ℕ) : ∀ occurrence steps visited state,
    Unused flows visited remaining → Room limits state (spent flows.length remaining) →
      (walk graph flows limits remaining occurrence steps visited state).coverage =
        state.coverage := by
  induction remaining with
  | zero =>
    intro occurrence steps visited state unused
    exact absurd unused.remaining_pos (Nat.lt_irrefl 0)
  | succ remaining ih =>
    intro occurrence steps visited state unused room
    have operates : ¬ limits.maxOperations ≤ state.operations := by
      have operations := (room.less (Nat.zero_le _)).operations
      omega
    unfold walk
    rw [if_neg operates]
    refine visit_roomy (walk_spends remaining) ih unused
      (fun target isTarget => mem_adjacency.1 isTarget) (room.less ?_)
    exact Nat.mul_le_mul_right _ (length_adjacency occurrence)

/-! ## The whole traversal -/

theorem mem_starts {first : PathEvidenceStep} : (occurrence, first) ∈ starts graph flows ↔
    StartsAt graph occurrence first ∧ occurrence ∈ flows.map Prod.fst := by
  unfold starts
  rw [List.mem_flatMap]
  constructor
  · rintro ⟨source, isSource, isStart⟩
    obtain ⟨isNode, kind⟩ := List.mem_filter.1 (mem_sortedBy.1 isSource)
    rcases isSpan : source.span with _ | span
    · rw [isSpan] at isStart
      cases isStart
    rw [isSpan] at isStart
    obtain ⟨start, isOccurrence, same⟩ := List.mem_map.1 isStart
    obtain ⟨rfl, rfl⟩ := Prod.mk.inj same
    obtain ⟨isFrom, here⟩ := List.mem_filter.1 (mem_sortedBy.1 isOccurrence)
    simp only [Bool.and_eq_true, decide_eq_true_eq] at here
    exact ⟨⟨⟨source, isNode, of_decide_eq_true kind, here.1.symm, isSpan, rfl⟩, here.2,
      here.1.symm, rfl⟩, List.mem_dedup.1 isFrom⟩
  · rintro ⟨⟨⟨source, isNode, kind, sameNode, isSpan, context⟩, role, nodeId, firstRole⟩, isFrom⟩
    refine ⟨source, mem_sortedBy.2 (List.mem_filter.2 ⟨isNode, decide_eq_true kind⟩), ?_⟩
    rw [isSpan]
    refine List.mem_map.2 ⟨occurrence, mem_sortedBy.2 (List.mem_filter.2
      ⟨List.mem_dedup.2 isFrom, ?_⟩), ?_⟩
    · rw [sameNode, role]
      simp
    · rw [Prod.mk.injEq]
      refine ⟨rfl, ?_⟩
      cases first
      dsimp only at context nodeId firstRole
      rw [context, nodeId, firstRole, sameNode]

/-- The traversal from some starts. -/
def traverseFrom (graph : CodeGraphArtifact) (flows : List (Occurrence × Occurrence))
    (limits : GraphFlowLimits) (begins : List (Occurrence × PathEvidenceStep)) (state : Traversal) :
    Traversal :=
  begins.foldl (fun state (occurrence, first) =>
    walk graph flows limits (limits.maxSteps - 1).toNat occurrence [first] [] state) state

theorem traverseFrom_grows (begins : List (Occurrence × PathEvidenceStep)) (state : Traversal) :
    Grows state (traverseFrom graph flows limits begins state) := by
  induction begins generalizing state with
  | nil => exact .refl _
  | cons start begins ih => exact (walk_grows _ _ _ _ _).trans (ih _)

/-- **The traversal finds walks.** -/
theorem traverse_sound
    (isFlows : ∀ source target, (source, target) ∈ flows ↔ graph.Flows source target)
    (isFound : found ∈ (traverse graph flows limits).candidates) : FlowWalk graph found := by
  have general : ∀ begins state, (∀ start ∈ begins, StartsAt graph start.1 start.2) →
      ∀ found ∈ (traverseFrom graph flows limits begins state).candidates,
        found ∈ state.candidates ∨ FlowWalk graph found := by
    intro begins
    induction begins with
    | nil => exact fun state _ found isFound => .inl isFound
    | cons start begins ih =>
      intro state areStarts found isFound
      rcases ih _ (fun other isStart => areStarts other (List.mem_cons_of_mem _ isStart)) found
        isFound with isOld | isWalk
      swap
      · exact .inr isWalk
      rcases walk_sound (fun source target => (isFlows source target).1) _ _ _ _ _ found isOld with
        isOld | ⟨way, trail, rfl⟩
      · exact .inl isOld
      · exact .inr ⟨start.1, start.2, way, areStarts start List.mem_cons_self,
          Network.trailFrom_iff.1 trail, rfl⟩
  rcases general (starts graph flows) _ (fun start isStart => (mem_starts.1 isStart).1) found
    isFound with isOld | isWalk
  · cases isOld
  · exact isWalk

/-- **The traversal finds every walk**, unless it records a limit. -/
theorem traverseFrom_complete
    (isFlows : ∀ source target, (source, target) ∈ flows ↔ graph.Flows source target)
    (isWalk : FlowWalk graph found) (state : Traversal)
    (unlimited : Unlimited (traverseFrom graph flows limits (starts graph flows) state).coverage) :
    found ∈ (traverseFrom graph flows limits (starts graph flows) state).candidates := by
  obtain ⟨start, first, way, isStart, trail, rfl⟩ := isWalk
  have isFrom : start ∈ flows.map Prod.fst := by
    obtain ⟨through, last, rfl, -⟩ := trail.stops
    cases through with
    | nil | cons =>
      exact List.mem_map_of_mem ((isFlows _ _).2 (trail.follows _ List.mem_cons_self))
  have begins := mem_starts.2 ⟨isStart, isFrom⟩
  revert begins unlimited
  generalize starts graph flows = begins
  intro unlimited isBegin
  induction begins generalizing state with
  | nil => cases isBegin
  | cons other begins ih =>
    rcases List.mem_cons.1 isBegin with rfl | isBegin
    swap
    · exact ih _ unlimited isBegin
    have goesOn := @traverseFrom_grows graph flows limits begins
      (walk graph flows limits (limits.maxSteps - 1).toNat start [first] [] state)
    exact goesOn.candidates _ (walk_complete (fun source target => (isFlows source target).2) _ _ _
      _ _ (unlimited.of_grows goesOn) way (Network.trailFrom_iff.2 trail))

/-- Limits that are never hit, from so many starts. -/
def ampleLimits (starts flows : ℕ) : GraphFlowLimits where
  maxPaths := (starts * spent flows (flows + 1) : ℕ)
  maxSteps := flows + 2
  maxOperations := (starts * spent flows (flows + 1) : ℕ) + 1

theorem traverseFrom_roomy (begins : List (Occurrence × PathEvidenceStep))
    (steps : limits.maxSteps = flows.length + 2)
    (room : Room limits state (begins.length * spent flows.length (flows.length + 1))) :
    (traverseFrom graph flows limits begins state).coverage = state.coverage := by
  have remaining : (limits.maxSteps - 1).toNat = flows.length + 1 := by omega
  induction begins generalizing state with
  | nil => rfl
  | cons start begins ih =>
    rw [List.length_cons, Nat.succ_mul, Nat.add_comm] at room
    have unused : Unused flows [] (flows.length + 1) := by
      refine ⟨List.nodup_nil, fun _ isUsed => (by cases isUsed), ?_⟩
      rw [List.length_nil]
      omega
    show (traverseFrom graph flows limits begins
      (walk graph flows limits (limits.maxSteps - 1).toNat start.1 [start.2] [] state)).coverage = _
    rw [remaining, ih (room.after (walk_spends _ _ _ _ _)),
      walk_roomy _ _ _ _ _ unused (room.less (Nat.le_add_right _ _))]

/-- Two traversals that differ in the limits they have recorded. -/
structure SameFinds (state state' : Traversal) : Prop where
  candidates : state'.candidates = state.candidates
  operations : state'.operations = state.operations

variable {state' : Traversal}

theorem SameFinds.finds (same : SameFinds state state') :
    SameFinds (state.found limits steps) (state'.found limits steps) := by
  unfold Traversal.found
  rw [same.candidates]
  split
  · exact ⟨rfl, same.operations⟩
  · exact ⟨same.candidates, same.operations⟩

theorem visit_same {descend : Occurrence → List PathEvidenceStep → List (Occurrence × Occurrence) →
      Traversal → Traversal}
    (later : ∀ target steps visited state state', SameFinds state state' →
      SameFinds (descend target steps visited state) (descend target steps visited state'))
    (same : SameFinds state state') :
    SameFinds (visit graph limits descend occurrence steps visited targets state)
      (visit graph limits descend occurrence steps visited targets state') := by
  induction targets generalizing state state' with
  | nil => exact same
  | cons target targets ih =>
    have operate : SameFinds state.operate state'.operate :=
      ⟨same.candidates, congrArg (· + 1) same.operations⟩
    unfold visit
    dsimp only
    rw [operate.operations]
    split
    · exact ⟨operate.candidates, operate.operations⟩
    split
    · exact ih operate
    split
    · exact ih operate
    split
    · exact ih operate.finds
    · exact ih (later _ _ _ _ _ operate)

theorem walk_same (remaining : ℕ) : ∀ occurrence steps visited state state', SameFinds state state' →
    SameFinds (walk graph flows limits remaining occurrence steps visited state)
      (walk graph flows limits remaining occurrence steps visited state') := by
  induction remaining with
  | zero =>
    intro occurrence steps visited state state' same
    unfold walk
    rw [same.operations]
    split
    · exact ⟨same.candidates, same.operations⟩
    · exact ⟨same.candidates, same.operations⟩
  | succ remaining ih =>
    intro occurrence steps visited state state' same
    unfold walk
    rw [same.operations]
    split
    · exact ⟨same.candidates, same.operations⟩
    · exact visit_same ih same

theorem traverseFrom_same (begins : List (Occurrence × PathEvidenceStep))
    (same : SameFinds state state') :
    SameFinds (traverseFrom graph flows limits begins state)
      (traverseFrom graph flows limits begins state') := by
  induction begins generalizing state state' with
  | nil => exact same
  | cons start begins ih => exact ih (walk_same _ _ _ _ _ _ same)

/-- **Some limits let every walk be found**, and are never hit. -/
theorem traverse_ample
    (isFlows : ∀ source target, (source, target) ∈ flows ↔ graph.Flows source target) :
    let limits := ampleLimits (starts graph flows).length flows.length
    (traverse graph flows limits).coverage = graph.coverageLimits.toFinset ∧
      ∀ steps, FlowWalk graph steps → steps ∈ (traverse graph flows limits).candidates := by
  intro limits
  have roomy : ∀ coverage, (traverseFrom graph flows limits (starts graph flows)
      { coverage := coverage }).coverage = coverage := by
    intro coverage
    refine traverseFrom_roomy _ rfl ⟨?_, ?_⟩
    · show ((0 : ℕ) : ℤ) + ((starts graph flows).length * spent _ _ : ℕ) <
        ((starts graph flows).length * spent _ _ : ℕ) + 1
      omega
    · show ((0 : ℕ) : ℤ) + ((starts graph flows).length * spent _ _ : ℕ) ≤
        ((starts graph flows).length * spent _ _ : ℕ)
      omega
  refine ⟨roomy _, ?_⟩
  intro steps isWalk
  -- What is found does not depend on the limits recorded before: let there be none.
  have same : SameFinds (traverse graph flows limits)
      (traverseFrom graph flows limits (starts graph flows) { coverage := ∅ }) :=
    traverseFrom_same _ ⟨rfl, rfl⟩
  rw [← same.candidates]
  refine traverseFrom_complete isFlows isWalk _ ?_
  rw [roomy]
  exact ⟨Finset.notMem_empty _, Finset.notMem_empty _, Finset.notMem_empty _⟩

end Fdai.Core.CodeFindings
