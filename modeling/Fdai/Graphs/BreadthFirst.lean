import Mathlib.Data.Nat.Find
import Fdai.Sequences.FirstSeen

/-!
# Breadth-first order

A graph is given by the list of the nodes each node leads to.

* `Walk`, `IsDistance` — walks from a start, and the length of a shortest one.
* `explored` — the layers of a breadth-first search, each in the order its nodes are found.
* `overlooks_iff` — what a node of a layer can lead to when it is found that is not known yet.
-/

namespace Fdai.Graphs

open Fdai.Sequences

variable {α : Type}

section

variable (next : α → List α) (start : α)

/-- A walk of so many steps ends in the node. -/
inductive Walk : ℕ → α → Prop
  | start : Walk 0 start
  | step {steps : ℕ} {node other : α} (walk : Walk steps node) (leads : other ∈ next node) :
      Walk (steps + 1) other

/-- A shortest walk to the node has so many steps. -/
def IsDistance (steps : ℕ) (node : α) : Prop :=
  Walk next start steps node ∧ ∀ fewer < steps, ¬ Walk next start fewer node

variable [DecidableEq α]

/-- The nodes that a search of so many layers knows, each with its layer, and the last layer. -/
def explored : ℕ → List (α × ℕ) × List α
  | 0 => ([(start, 0)], [start])
  | layer + 1 =>
    let (known, last) := explored layer
    let new := fresh (known.map Prod.fst) (last.flatMap next)
    (known ++ new.map (·, layer + 1), new)

/-- One of the new nodes leads to a node that is not known when it is found. -/
def overlooks : List α → List α → Bool
  | _, [] => false
  | known, node :: rest => (next node).any (· ∉ known ++ [node]) || overlooks (known ++ [node]) rest

end

variable {next : α → List α} {start node other : α} {steps depth : ℕ}

theorem Walk.exists_distance (walk : Walk next start steps node) :
    ∃ fewer ≤ steps, IsDistance next start fewer node := by
  classical
  have reached : ∃ fewer, Walk next start fewer node := ⟨steps, walk⟩
  exact ⟨Nat.find reached, Nat.find_min' reached walk, Nat.find_spec reached,
    fun fewer less => Nat.find_min reached less⟩

variable [DecidableEq α]

/-- **The layers are the distances.** -/
theorem mem_explored : (node ∈ (explored next start steps).2 ↔ IsDistance next start steps node) ∧
    ((node, depth) ∈ (explored next start steps).1 ↔
      depth ≤ steps ∧ IsDistance next start depth node) := by
  induction steps generalizing node depth with
  | zero =>
    have isStart : IsDistance next start 0 node ↔ node = start := by
      refine ⟨fun distance => ?_, fun same => ⟨same ▸ .start, fun _ less => absurd less (by omega)⟩⟩
      cases distance.1
      rfl
    constructor
    · rw [isStart]
      exact List.mem_singleton
    · simp only [explored, List.mem_singleton, Prod.mk.injEq, Nat.le_zero]
      constructor
      · rintro ⟨rfl, rfl⟩
        exact ⟨rfl, isStart.2 rfl⟩
      · rintro ⟨rfl, distance⟩
        exact ⟨isStart.1 distance, rfl⟩
  | succ steps ih =>
    have found (node : α) := (@ih node 0).1
    have known (node : α) : node ∈ (explored next start steps).1.map Prod.fst ↔
        ∃ depth ≤ steps, IsDistance next start depth node := by
      simp [(@ih node _).2]
    have last : node ∈ (explored next start (steps + 1)).2 ↔
        IsDistance next start (steps + 1) node := by
      simp only [explored, mem_fresh, List.mem_flatMap, known, found]
      constructor
      · rintro ⟨⟨before, distance, leads⟩, unknown⟩
        refine ⟨.step distance.1 leads, fun fewer less walk => unknown ?_⟩
        obtain ⟨least, below, distance⟩ := walk.exists_distance
        exact ⟨least, by omega, distance⟩
      · rintro ⟨walk, least⟩
        cases walk with
        | @step _ before _ walk leads =>
          refine ⟨⟨before, ⟨walk, fun fewer less walk => ?_⟩, leads⟩, ?_⟩
          · exact least (fewer + 1) (by omega) (.step walk leads)
          · rintro ⟨depth, below, distance⟩
            exact least depth (by omega) distance.1
    refine ⟨last, ?_⟩
    simp only [explored, List.mem_append, ih.2, List.mem_map, Prod.mk.injEq]
    constructor
    · rintro (⟨below, distance⟩ | ⟨found, isNew, rfl, rfl⟩)
      · exact ⟨by omega, distance⟩
      · exact ⟨Nat.le_refl _, last.1 isNew⟩
    · rintro ⟨below, distance⟩
      rcases Nat.le_succ_iff.1 below with below | rfl
      · exact .inl ⟨below, distance⟩
      · exact .inr ⟨node, last.2 distance, rfl, rfl⟩

theorem nodup_explored : ((explored next start steps).1.map Prod.fst).Nodup := by
  induction steps with
  | zero => exact List.nodup_singleton _
  | succ steps ih =>
    simp only [explored, List.map_append, List.map_map, Function.comp_def, List.map_id']
    exact List.nodup_append.2 ⟨ih, nodup_fresh, fun node isKnown other isNew same =>
      (mem_fresh.1 isNew).2 (same ▸ isKnown)⟩

variable {known new : List α}

theorem overlooks_append {new' : List α} : overlooks next known (new ++ new') =
    (overlooks next known new || overlooks next (known ++ new) new') := by
  induction new generalizing known with
  | nil => simp [overlooks]
  | cons node rest ih => simp [overlooks, ih, Bool.or_assoc]

/-- **What is not known** when a node is found is not known after the layer either, or it is a
later node of the layer. -/
theorem overlooks_iff (unique : (known ++ new).Nodup) : overlooks next known new = true ↔
    ∃ node ∈ new, ∃ other ∈ next node, other ∉ known ++ new ∨ [node, other].Sublist new := by
  induction new generalizing known with
  | nil => simp [overlooks]
  | cons node rest ih =>
    rw [List.append_cons] at unique
    have later (other : α) : other ∉ known ++ [node] ↔
        other ∉ known ++ node :: rest ∨ [node, other].Sublist (node :: rest) := by
      have apart : other ∈ rest → other ∉ known ++ [node] := fun isRest isKnown =>
        List.disjoint_of_nodup_append unique isKnown isRest
      rw [List.append_cons known node rest, List.mem_append (s := known ++ [node]), not_or,
        List.cons_sublist_cons, List.singleton_sublist]
      tauto
    have pairs (first second : α) (isRest : first ∈ rest) :
        [first, second].Sublist (node :: rest) ↔ [first, second].Sublist rest := by
      have apart : first ≠ node := by
        rintro rfl
        exact List.disjoint_of_nodup_append unique (by simp) isRest
      simp [List.sublist_cons_iff, apart]
    rw [overlooks, Bool.or_eq_true, ih unique, List.exists_mem_cons_iff, ← List.append_cons]
    refine or_congr ?_ (exists_congr fun first => and_congr_right fun isRest => ?_)
    · rw [List.any_eq_true]
      exact exists_congr fun other => and_congr_right fun _ =>
        decide_eq_true_iff.trans (later other)
    · simp only [pairs first _ isRest]

/-- A node that so many layers do not have has no such distance. -/
theorem notMem_explored : node ∉ (explored next start steps).1.map Prod.fst ↔
    ∀ depth ≤ steps, ¬ IsDistance next start depth node := by
  simp [mem_explored]

/-- **What a layer overlooks**: a node of it leads beyond the layers, or to a later node of it. -/
theorem overlooks_explored : overlooks next ((explored next start steps).1.map Prod.fst)
      (explored next start (steps + 1)).2 = true ↔
    (∃ node, IsDistance next start (steps + 1) node ∧ ∃ other ∈ next node,
        ∀ depth ≤ steps + 1, ¬ IsDistance next start depth other) ∨
      ∃ node other, other ∈ next node ∧
        [node, other].Sublist (explored next start (steps + 1)).2 := by
  have names : (explored next start (steps + 1)).1.map Prod.fst =
      (explored next start steps).1.map Prod.fst ++ (explored next start (steps + 1)).2 := by
    simp [explored, Function.comp_def]
  rw [overlooks_iff (names ▸ nodup_explored), ← names]
  constructor
  · rintro ⟨node, isNode, other, leads, beyond | later⟩
    · exact .inl ⟨node, (@mem_explored _ _ _ _ _ 0 _).1.1 isNode, other, leads,
        notMem_explored.1 beyond⟩
    · exact .inr ⟨node, other, leads, later⟩
  · rintro (⟨node, distance, other, leads, beyond⟩ | ⟨node, other, leads, later⟩)
    · exact ⟨node, (@mem_explored _ _ _ _ _ 0 _).1.2 distance, other, leads,
        .inl (notMem_explored.2 beyond)⟩
    · exact ⟨node, later.subset List.mem_cons_self, other, leads, .inr later⟩

end Fdai.Graphs
