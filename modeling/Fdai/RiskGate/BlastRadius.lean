import Mathlib.Data.Prod.Lex
import Mathlib.Data.String.Basic
import Fdai.Graphs.BreadthFirst
import Fdai.Providers.Checks
import Fdai.Sequences.SortedBy

/-!
# The blast radius of an action

A breadth-first search over the links a caller names, to a depth the caller bounds. A node at
the bound is not expanded; whether it leads to a node that was not reached is asked when the node
is found.

* `simulateBlastRadius` — the search, with its queue.
* `simulation_exact_iff` — the nodes within the bound are reached at their distances, and the
  report says of a cut what there is, exactly if no node at the bound leads to one that is found
  after it, or one leads beyond the reach.
-/

namespace Fdai.Core.BlastRadius

open Fdai.Sequences Fdai.Graphs

/-! ## The search -/

structure OntologyGraph where
  neighbors : String → String → List String
  hasLinkType : String → Bool

structure ReachedNode where
  resourceId : String
  depth : ℕ
  viaLinkType : Option String
  deriving DecidableEq

structure TraversedEdge where
  source : String
  target : String
  linkType : String
  depth : ℕ
  deriving DecidableEq

structure BlastRadiusRequest where
  target : String
  traversalDepth : ℕ
  traversalLinks : List String

structure BlastRadiusReport where
  target : String
  traversalDepth : ℕ
  traversalLinks : List String
  reached : List ReachedNode
  edges : List TraversedEdge
  truncatedAtDepth : Bool
  deriving DecidableEq

/-- What a simulation is refused for. -/
inductive SimulationError where
  | depthTooSmall
  | depthExceeded (depth : ℕ)
  | noLinks
  | unknownLinkType (linkType : String)
  deriving DecidableEq

def maxTraversalDepth : ℕ := 5

/-- What the search keeps: the nodes it has seen, in the order it found them, and its queue. -/
structure Search where
  seen : List ReachedNode
  edges : List TraversedEdge := []
  truncated : Bool := false
  queue : List (String × ℕ)

/-- The ids of the nodes seen. -/
def Search.ids (s : Search) : List String := s.seen.map ReachedNode.resourceId

-- the order of ℕ that computes
local instance depthOrder : LinearOrder ℕ := Nat.instLinearOrder

section

variable (graph : OntologyGraph) (request : BlastRadiusRequest)

/-- The checks of a request. -/
def check : Except SimulationError Unit :=
  if request.traversalDepth < 1 then .error .depthTooSmall
  else if maxTraversalDepth < request.traversalDepth then
    .error (.depthExceeded request.traversalDepth)
  else if request.traversalLinks = [] then .error .noLinks
  else match request.traversalLinks.find? (!graph.hasLinkType ·) with
    | some linkType => .error (.unknownLinkType linkType)
    | none => .ok ()

/-- The links of a node that are followed, in order, each with its neighbor. -/
def hops (node : String) : List (String × String) :=
  request.traversalLinks.flatMap fun linkType =>
    (graph.neighbors node linkType).map (linkType, ·)

/-- The nodes a node leads to. -/
def next (node : String) : List String := (hops graph request node).map Prod.snd

def checkTruncation (s : Search) (node : String) : Bool :=
  (next graph request node).any (· ∉ s.ids)

/-- One neighbor of the current node. -/
def meet (current : String) (depth : ℕ) (s : Search) (hop : String × String) : Search :=
  let s := { s with edges := s.edges ++ [TraversedEdge.mk current hop.2 hop.1 (depth + 1)] }
  if hop.2 ∈ s.ids then s
  else
    let s := { s with seen := s.seen ++ [ReachedNode.mk hop.2 (depth + 1) (some hop.1)] }
    if depth + 1 < request.traversalDepth then
      { s with queue := s.queue ++ [(hop.2, depth + 1)] }
    else
      { s with truncated := checkTruncation graph request s hop.2 || s.truncated }

/-- The loop over the queue, of so many turns at most. -/
def loop : ℕ → Search → Option Search
  | 0, s => if s.queue = [] then some s else none
  | turns + 1, s =>
    match s.queue with
    | [] => some s
    | (current, depth) :: queue =>
      let s := { s with queue }
      loop turns (if request.traversalDepth ≤ depth then s
        else (hops graph request current).foldl (meet graph request current depth) s)

/-- Only the target is seen. -/
def begun : Search where
  seen := [ReachedNode.mk request.target 0 none]
  queue := [(request.target, 0)]

def report (s : Search) : BlastRadiusReport where
  target := request.target
  traversalDepth := request.traversalDepth
  traversalLinks := request.traversalLinks
  reached := sortedBy (fun node => toLex (node.depth, node.resourceId)) s.seen
  edges := s.edges
  truncatedAtDepth := s.truncated

def simulateBlastRadius (turns : ℕ) : Except SimulationError (Option BlastRadiusReport) := do
  check graph request
  pure ((loop graph request turns (begun request)).map (report request))

end

/-! ## What the search knows -/

variable {graph : OntologyGraph} {request : BlastRadiusRequest} {s : Search}
  {known : List (String × ℕ)} {queue : List (String × ℕ)} {truncated : Bool}

/-- The nodes seen with their depths, the queue, and the flag. -/
structure Shows (s : Search) (known queue : List (String × ℕ)) (truncated : Bool) : Prop where
  seen : s.seen.map (fun node => (node.resourceId, node.depth)) = known
  queue : s.queue = queue
  truncated : s.truncated = truncated

theorem Shows.ids (shows_ : Shows s known queue truncated) : s.ids = known.map Prod.fst := by
  rw [Search.ids, ← shows_.seen, List.map_map]
  rfl

def queued (request : BlastRadiusRequest) (depth : ℕ) (new : List String) : List (String × ℕ) :=
  if depth < request.traversalDepth then new.map (·, depth) else []

/-- Whether new nodes of a depth set the flag. -/
def cuts (graph : OntologyGraph) (request : BlastRadiusRequest) (depth : ℕ)
    (known new : List String) : Bool :=
  decide (request.traversalDepth ≤ depth) && overlooks (next graph request) known new

/-- New nodes of a depth are seen, queued and asked about. -/
abbrev Found (graph : OntologyGraph) (request : BlastRadiusRequest) (s : Search)
    (known queue : List (String × ℕ)) (truncated : Bool) (depth : ℕ) (new : List String) : Prop :=
  Shows s (known ++ new.map (·, depth)) (queue ++ queued request depth new)
    (truncated || cuts graph request depth (known.map Prod.fst) new)

variable {depth : ℕ} {current : String} {new new' : List String}

theorem found_nil (shows_ : Shows s known queue truncated) :
    Found graph request s known queue truncated depth [] := by
  simpa [Found, queued, cuts, overlooks] using shows_

theorem ids_map : (new.map (·, depth)).map Prod.fst = new := by
  rw [List.map_map]
  exact List.map_id _

/-- New nodes, and then others. -/
theorem found_append (found : Found graph request s (known ++ new.map (·, depth))
      (queue ++ queued request depth new)
      (truncated || cuts graph request depth (known.map Prod.fst) new) depth new') :
    Found graph request s known queue truncated depth (new ++ new') := by
  have both : queued request depth (new ++ new') =
      queued request depth new ++ queued request depth new' := by
    unfold queued
    split
    · exact List.map_append
    · rfl
  simp only [Found, cuts, List.map_append, ids_map, List.append_assoc, Bool.or_assoc,
    ← Bool.and_or_distrib_left, ← overlooks_append, ← both] at found
  simpa only [Found, cuts, List.map_append, List.append_assoc] using found

variable (graph request depth current) in
/-- **One neighbor** that was not seen before. -/
theorem found_meet {hop : String × String} (shows_ : Shows s known queue truncated)
    (unseen : hop.2 ∉ known.map Prod.fst) :
    Found graph request (meet graph request current depth s hop) known queue truncated
      (depth + 1) [hop.2] := by
  have ids := shows_.ids
  have seen := shows_.seen
  rw [meet, if_neg (by rwa [← ids] at unseen)]
  dsimp only
  split
  · rename_i inside
    refine ⟨by simp [seen], ?_, ?_⟩
    · simp [queued, inside, shows_.queue]
    · simp [cuts, inside, shows_.truncated]
  rename_i outside
  refine ⟨by simp [seen], ?_, ?_⟩
  · simp [queued, outside, shows_.queue]
  · simp [cuts, overlooks, Nat.le_of_not_lt outside, shows_.truncated, checkTruncation,
      Search.ids, ← ids, Bool.or_comm]

variable (graph request depth current) in
/-- **The neighbors of a node**, but for those seen before. -/
theorem found_foldl (met : List (String × String)) (shows_ : Shows s known queue truncated) :
    Found graph request (met.foldl (meet graph request current depth) s) known queue truncated
      (depth + 1) (fresh (known.map Prod.fst) (met.map Prod.snd)) := by
  induction met generalizing s known queue truncated with
  | nil => exact found_nil shows_
  | cons hop met ih =>
    rw [List.foldl_cons, List.map_cons, fresh]
    split
    · rename_i isKnown
      refine ih ?_
      rw [meet, if_pos (by rwa [← shows_.ids] at isKnown)]
      exact ⟨shows_.seen, shows_.queue, shows_.truncated⟩
    rename_i unseen
    have rest := ih (found_meet graph request depth current shows_ unseen)
    rw [List.map_append] at rest
    change Found _ _ _ _ _ _ _ ([hop.2] ++ _)
    exact found_append rest

/-- **A layer** of the queue finds the next one. -/
theorem found_layer (last : List String) (inside : depth < request.traversalDepth)
    (shows_ : Shows s known (last.map (·, depth) ++ queue) truncated) :
    ∃ s', (∀ turns, loop graph request (last.length + turns) s = loop graph request turns s') ∧
      Found graph request s' known queue truncated (depth + 1)
        (fresh (known.map Prod.fst) (last.flatMap (next graph request))) := by
  induction last generalizing s known queue truncated with
  | nil => exact ⟨s, fun turns => by rw [List.length_nil, Nat.zero_add], found_nil shows_⟩
  | cons current last ih =>
    have popped : Shows { s with queue := last.map (·, depth) ++ queue } known
        (last.map (·, depth) ++ queue) truncated := ⟨shows_.seen, rfl, shows_.truncated⟩
    have found := found_foldl graph request depth current (hops graph request current) popped
    rw [Found, List.append_assoc] at found
    obtain ⟨s', runs, rest⟩ := ih found
    refine ⟨s', fun turns => ?_, ?_⟩
    · rw [← runs, List.length_cons, Nat.add_right_comm, loop, shows_.queue]
      simp only [List.map_cons, List.cons_append, Nat.not_le_of_lt inside, if_false]
    · rw [List.flatMap_cons, fresh_append]
      rw [List.map_append, ids_map] at rest
      exact found_append rest

/-- **The search** comes to each layer up to the bound. -/
theorem shows_explored (layer : ℕ) (inside : layer < request.traversalDepth) :
    ∃ turns s, (∀ more, loop graph request (turns + more) (begun request) =
        loop graph request more s) ∧
      Found graph request s (explored (next graph request) request.target layer).1 [] false
        (layer + 1) (explored (next graph request) request.target (layer + 1)).2 := by
  induction layer with
  | zero =>
    have shows_ : Shows (begun request) [(request.target, 0)]
      ([request.target].map (·, 0) ++ []) false := ⟨rfl, rfl, rfl⟩
    obtain ⟨s, runs, found⟩ := found_layer [request.target] inside shows_
    exact ⟨_, s, runs, found⟩
  | succ layer ih =>
    obtain ⟨turns, s, runs, found⟩ := ih (by omega)
    have queue : queued request (layer + 1) (explored (next graph request) request.target
        (layer + 1)).2 = (explored (next graph request) request.target (layer + 1)).2.map
          (·, layer + 1) := if_pos inside
    have uncut (known new : List String) : cuts graph request (layer + 1) known new = false := by
      simp [cuts, inside]
    rw [Found, uncut, queue] at found
    obtain ⟨s', runs', found'⟩ := found_layer _ inside
      ⟨found.seen, found.queue.trans (List.append_nil _).symm, found.truncated⟩
    exact ⟨_, s', fun more => by rw [Nat.add_assoc, runs, runs'], found'⟩

/-- The nodes within the bound are reached, each once and at its distance. -/
structure ReachExact (graph : OntologyGraph) (request : BlastRadiusRequest)
    (report : BlastRadiusReport) : Prop where
  unique : (report.reached.map ReachedNode.resourceId).Nodup
  exact : ∀ node depth, (∃ reached ∈ report.reached,
      reached.resourceId = node ∧ reached.depth = depth) ↔
    depth ≤ request.traversalDepth ∧ IsDistance (next graph request) request.target depth node

/-- A node at the bound leads beyond the reach. -/
def LeadsOutside (graph : OntologyGraph) (request : BlastRadiusRequest) : Prop :=
  ∃ node, IsDistance (next graph request) request.target request.traversalDepth node ∧
    ∃ other ∈ next graph request node, ∀ depth ≤ request.traversalDepth,
      ¬ IsDistance (next graph request) request.target depth other

/-- A node at the bound leads to one that a search in breadth-first order finds after it. -/
def LeadsToLater (graph : OntologyGraph) (request : BlastRadiusRequest) : Prop :=
  ∃ node other, other ∈ next graph request node ∧ [node, other].Sublist
    (explored (next graph request) request.target request.traversalDepth).2

/-- **What the simulation reports**: the reach, and whether a node at the bound leads outside or to
a later one. -/
theorem simulation_reports (accepted : check graph request = .ok ()) :
    ∃ report, (∃ enough, ∀ turns ≥ enough,
        simulateBlastRadius graph request turns = .ok (some report)) ∧
      ReachExact graph request report ∧ (report.truncatedAtDepth = true ↔
        LeadsOutside graph request ∨ LeadsToLater graph request) := by
  obtain ⟨last, bound⟩ : ∃ last, request.traversalDepth = last + 1 := by
    refine ⟨request.traversalDepth - 1, ?_⟩
    unfold check at accepted
    split at accepted
    · cases accepted
    · omega
  obtain ⟨turns, s, runs, found⟩ := @shows_explored graph request last (by omega)
  have seen := found.seen
  have queue : s.queue = [] := by simp [found.queue, queued, bound]
  have truncated : s.truncated = overlooks (next graph request)
      ((explored (next graph request) request.target last).1.map Prod.fst)
      (explored (next graph request) request.target (last + 1)).2 := by
    simp [found.truncated, cuts, bound]
  have whole : s.seen.map (fun node => (node.resourceId, node.depth)) =
      (explored (next graph request) request.target (last + 1)).1 := seen
  refine ⟨report request s, ⟨turns, fun more enough => ?_⟩, ⟨?_, fun node depth => ?_⟩, ?_⟩
  · obtain ⟨more, rfl⟩ := Nat.exists_eq_add_of_le enough
    rw [simulateBlastRadius, accepted, runs]
    have ended : loop graph request more s = some s := by
      cases more <;> simp [loop, queue]
    rw [ended]
    rfl
  · refine (((perm_sortedBy _ s.seen).map _).nodup_iff).2 ?_
    have unique := @nodup_explored _ (next graph request) request.target (last + 1) _
    rw [← whole, List.map_map] at unique
    exact unique
  · rw [bound, ← mem_explored.2, ← whole, List.mem_map]
    simp [report, Prod.ext_iff]
  · rw [report, truncated, overlooks_explored, LeadsOutside, LeadsToLater, bound]

/-- **Simulation.** The reach is exact, and the report tells whether a node at the bound leads
outside, exactly if one does or none leads to a later one. -/
theorem simulation_exact_iff (graph : OntologyGraph) (request : BlastRadiusRequest)
    (accepted : check graph request = .ok ()) :
    ∃ report, (∃ enough, ∀ turns ≥ enough,
        simulateBlastRadius graph request turns = .ok (some report)) ∧
      (ReachExact graph request report ∧
          (report.truncatedAtDepth = true ↔ LeadsOutside graph request) ↔
        LeadsOutside graph request ∨ ¬ LeadsToLater graph request) := by
  obtain ⟨report, returns, exact, truncated⟩ := simulation_reports accepted
  refine ⟨report, returns, ?_⟩
  rw [truncated]
  tauto

/-- `a` leads to `b` and `c`, and `b` to `c`. -/
private def triangle : OntologyGraph where
  neighbors node _ := if node = "a" then ["b", "c"] else if node = "b" then ["c"] else []
  hasLinkType linkType := linkType = "depends_on"

private def within (traversalDepth : ℕ) : BlastRadiusRequest where
  target := "a"
  traversalDepth
  traversalLinks := ["depends_on"]

/-- The search of two layers ends. -/
theorem simulation_exact_triangle : ∃ report, ∃ enough, ∀ turns ≥ enough,
    simulateBlastRadius triangle (within 2) turns = .ok (some report) :=
  have ⟨report, returns, _⟩ := simulation_exact_iff triangle (within 2) (by decide +kernel)
  ⟨report, returns⟩

/-- With a bound of one every node is reached, and the report says that there are more. -/
theorem whole_reach_truncated : ¬ ∀ graph request report turns,
      simulateBlastRadius graph request turns = .ok (some report) →
        (report.truncatedAtDepth = true ↔ LeadsOutside graph request) := by
  intro always
  have returned : ∃ report, simulateBlastRadius triangle (within 1) 1 = .ok (some report) ∧
      report.truncatedAtDepth = true := ⟨_, rfl, by decide +kernel⟩
  obtain ⟨report, returned, truncated⟩ := returned
  obtain ⟨node, distance, other, leads, beyond⟩ :=
    (always triangle (within 1) report 1 returned).1 truncated
  have isNode := (@mem_explored _ _ _ _ _ 0 _).1.2 distance
  have known : ∀ node ∈ (explored (next triangle (within 1)) "a" 1).2,
      ∀ other ∈ next triangle (within 1) node,
        other ∈ (explored (next triangle (within 1)) "a" 1).1.map Prod.fst := by
    decide +kernel
  exact notMem_explored.2 beyond (known node isNode other leads)

end Fdai.Core.BlastRadius
