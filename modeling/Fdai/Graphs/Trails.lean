import Mathlib.Data.List.Nodup

/-!
# Trails

Ways through a directed graph that use no edge twice, up to the first place where they stop.

* `Network` — which places follow a place, which can be entered, and which stop a way.
* `IsTrail` — a trail, as a property of the whole way.
* `TrailFrom`, `trailFrom_iff` — a trail built edge by edge, apart from edges that are already used.
-/

namespace Fdai.Graphs

variable {α : Type}

/-- A directed graph, as a search sees it. -/
structure Network (α : Type) where
  /-- The second place follows the first. -/
  Follows : α → α → Prop
  /-- A place can be entered. -/
  enters : α → Bool
  /-- A way stops at a place. -/
  stops : α → Bool

/-- The edges of a way from here. -/
def edgesOf : α → List α → List (α × α)
  | _, [] => []
  | start, place :: rest => (start, place) :: edgesOf place rest

/-- **A trail**: it follows the graph, uses no edge twice, and stops at its last place. -/
structure Network.IsTrail (net : Network α) (start : α) (way : List α) : Prop where
  follows : ∀ edge ∈ edgesOf start way, net.Follows edge.1 edge.2
  once : (edgesOf start way).Nodup
  enters : ∀ place ∈ way, net.enters place = true
  stops : ∃ through last, way = through ++ [last] ∧ net.stops last = true ∧
    ∀ place ∈ through, net.stops place = false

/-- **A trail, edge by edge**, where some edges are already used. -/
inductive Network.TrailFrom (net : Network α) : List (α × α) → α → List α → Prop
  | stop {used : List (α × α)} {start place : α} (follows : net.Follows start place)
      (fresh : (start, place) ∉ used) (enters : net.enters place = true)
      (stops : net.stops place = true) : TrailFrom net used start [place]
  | go {used : List (α × α)} {start place : α} {rest : List α} (follows : net.Follows start place)
      (fresh : (start, place) ∉ used) (enters : net.enters place = true)
      (through : net.stops place = false)
      (later : TrailFrom net ((start, place) :: used) place rest) :
      TrailFrom net used start (place :: rest)

namespace Network

variable {net : Network α} {used : List (α × α)} {start : α} {way : List α}

theorem TrailFrom.isTrail (trail : net.TrailFrom used start way) :
    net.IsTrail start way ∧ ∀ edge ∈ edgesOf start way, edge ∉ used := by
  induction trail with
  | @stop used start place follows fresh enters stops =>
    refine ⟨⟨?_, List.nodup_singleton _, ?_, [], place, rfl, stops, ?_⟩, ?_⟩
    · intro edge isEdge
      obtain rfl := List.mem_singleton.1 isEdge
      exact follows
    · intro other isPlace
      rw [List.mem_singleton.1 isPlace]
      exact enters
    · intro other isPlace
      cases isPlace
    · intro edge isEdge
      obtain rfl := List.mem_singleton.1 isEdge
      exact fresh
  | @go used start place rest follows fresh enters through later ih =>
    obtain ⟨⟨restFollows, restOnce, restEnters, before, last, rfl, stops, goes⟩, unused⟩ := ih
    refine ⟨⟨?_, ?_, ?_, place :: before, last, rfl, stops, ?_⟩, ?_⟩
    · intro edge isEdge
      rcases List.mem_cons.1 isEdge with rfl | isEdge
      · exact follows
      · exact restFollows edge isEdge
    · refine List.nodup_cons.2 ⟨?_, restOnce⟩
      intro again
      exact unused _ again List.mem_cons_self
    · intro other isPlace
      rcases List.mem_cons.1 isPlace with rfl | isPlace
      · exact enters
      · exact restEnters other isPlace
    · intro other isPlace
      rcases List.mem_cons.1 isPlace with rfl | isPlace
      · exact through
      · exact goes other isPlace
    · intro edge isEdge
      rcases List.mem_cons.1 isEdge with rfl | isEdge
      · exact fresh
      · exact fun isUsed => unused edge isEdge (List.mem_cons_of_mem _ isUsed)

theorem IsTrail.trailFrom (trail : net.IsTrail start way)
    (unused : ∀ edge ∈ edgesOf start way, edge ∉ used) : net.TrailFrom used start way := by
  induction way generalizing start used with
  | nil =>
    obtain ⟨through, last, same, -⟩ := trail.stops
    exact absurd same.symm (by simp)
  | cons place rest ih =>
    obtain ⟨follows, once, enters, through, last, same, stops, goes⟩ := trail
    have follows' := follows _ List.mem_cons_self
    have fresh := unused _ List.mem_cons_self
    have enters' := enters place List.mem_cons_self
    rcases through with _ | ⟨first, through⟩
    · obtain ⟨rfl, rfl⟩ := List.cons.inj same
      exact .stop follows' fresh enters' stops
    obtain ⟨rfl, rfl⟩ := List.cons.inj same
    obtain ⟨apart, once⟩ := List.nodup_cons.1 once
    refine .go follows' fresh enters' (goes place List.mem_cons_self) (ih ?_ ?_)
    · exact ⟨fun edge isEdge => follows edge (List.mem_cons_of_mem _ isEdge), once,
        fun other isPlace => enters other (List.mem_cons_of_mem _ isPlace), through, last, rfl,
        stops, fun other isPlace => goes other (List.mem_cons_of_mem _ isPlace)⟩
    · intro edge isEdge isUsed
      rcases List.mem_cons.1 isUsed with rfl | isUsed
      · exact apart isEdge
      · exact unused edge (List.mem_cons_of_mem _ isEdge) isUsed

/-- **The two notions of a trail agree.** -/
theorem trailFrom_iff : net.TrailFrom [] start way ↔ net.IsTrail start way :=
  ⟨fun trail => trail.isTrail.1, fun trail => trail.trailFrom fun _ _ isUsed => by cases isUsed⟩

end Network

end Fdai.Graphs
