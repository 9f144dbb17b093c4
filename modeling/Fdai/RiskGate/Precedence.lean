import Mathlib.Data.Prod.Lex
import Mathlib.Data.String.Basic
import Fdai.Sequences.FirstSeen
import Fdai.Sequences.SortedBy

/-!
# Precedence between verticals

Candidates are grouped by the resource they act on. In a group the one of the highest
precedence wins, of several the one with the smallest action id; the others are deferred, or
handed to a person where they cannot be.

* `resolve` — the decisions, `answers` — each beside its candidate.
* `resolution_exact_iff` — every candidate is answered once, each resource has one winner, and
  the outcomes do not depend on the order of the candidates exactly if no two different
  candidates share the first place of a resource.
-/

namespace Fdai.Core.Precedence

open Fdai.Sequences

inductive Vertical where
  | resilienceSafetyHold | resilience | changeSafety | cost
  deriving DecidableEq

/-- The text of a vertical. -/
def Vertical.value : Vertical → String
  | .resilienceSafetyHold => "resilience_safety_hold"
  | .resilience => "resilience"
  | .changeSafety => "change_safety"
  | .cost => "cost"

def Vertical.precedence : Vertical → ℤ
  | .cost => 0
  | .changeSafety => 1
  | .resilience => 2
  | .resilienceSafetyHold => 3

inductive PrecedenceOutcome where
  | win | defer | escalateHil
  deriving DecidableEq

structure CandidateAction where
  actionId : String
  resourceId : String
  vertical : Vertical
  deferrable : Bool := true
  deriving DecidableEq

structure PrecedenceDecision where
  actionId : String
  vertical : Vertical
  outcome : PrecedenceOutcome
  reasons : List String := []
  deriving DecidableEq

-- the order of ℤ that computes
local instance keyOrder : LinearOrder ℤ := Int.instLinearOrder

/-- The key that candidates of one resource are sorted by. -/
def CandidateAction.key (c : CandidateAction) : ℤ ×ₗ String :=
  toLex (-c.vertical.precedence, c.actionId)

def won (winner : CandidateAction) : PrecedenceDecision :=
  { actionId := winner.actionId, vertical := winner.vertical, outcome := .win }

def lost (resourceId : String) (winner loser : CandidateAction) : PrecedenceDecision :=
  let reason := "lost_to:" ++ winner.vertical.value ++ ":resource=" ++ resourceId ++
    ":winner_action_id=" ++ winner.actionId
  if loser.deferrable then
    { actionId := loser.actionId, vertical := loser.vertical, outcome := .defer
      reasons := [reason] }
  else
    { actionId := loser.actionId, vertical := loser.vertical, outcome := .escalateHil
      reasons := [reason, "not_safely_deferrable"] }

def answerGroup (resourceId : String) (group : List CandidateAction) :
    List (CandidateAction × PrecedenceDecision) :=
  match group with
  | [sole] => [(sole, won sole)]
  | _ =>
    match sortedBy CandidateAction.key group with
    | [] => []
    | winner :: losers =>
      (winner, won winner) :: losers.map fun loser => (loser, lost resourceId winner loser)

/-- The candidates of a resource, `by_resource[…]`. -/
def group (candidates : List CandidateAction) (resourceId : String) : List CandidateAction :=
  candidates.filter (·.resourceId = resourceId)

/-- The decisions, each beside the candidate it is about. The resources come in the order of
their first candidates. -/
def answers (candidates : List CandidateAction) : List (CandidateAction × PrecedenceDecision) :=
  (distinct (candidates.map CandidateAction.resourceId)).flatMap fun resourceId =>
    answerGroup resourceId (group candidates resourceId)

def resolve (candidates : List CandidateAction) : List PrecedenceDecision :=
  (answers candidates).map Prod.snd

variable {candidates candidates' members : List CandidateAction} {c winner loser : CandidateAction}
  {losers : List CandidateAction} {resourceId : String}

/-- **A group** that is not empty has a first candidate, and the others lose to it. -/
theorem answerGroup_eq (sorted : sortedBy CandidateAction.key members = winner :: losers) :
    answerGroup resourceId members =
      (winner, won winner) :: losers.map fun loser => (loser, lost resourceId winner loser) := by
  match members with
  | [] => cases sorted
  | [sole] =>
    obtain ⟨rfl, rfl⟩ := List.cons.inj (show [sole] = winner :: losers from sorted)
    rfl
  | first :: second :: rest => simp only [answerGroup, sorted]

theorem exists_sorted (nonempty : members ≠ []) :
    ∃ winner losers, sortedBy CandidateAction.key members = winner :: losers := by
  refine List.exists_cons_of_ne_nil fun empty => nonempty ?_
  have perm := perm_sortedBy CandidateAction.key members
  rwa [empty, List.nil_perm] at perm

theorem outcome_lost : (lost resourceId winner loser).outcome ≠ .win := by
  unfold lost
  dsimp only
  split <;> simp

theorem identity_lost : (lost resourceId winner loser).actionId = loser.actionId ∧
    (lost resourceId winner loser).vertical = loser.vertical := by
  unfold lost
  dsimp only
  split <;> exact ⟨rfl, rfl⟩

theorem answerGroup_perm : ((answerGroup resourceId members).map Prod.fst).Perm members := by
  by_cases empty : members = []
  · subst empty
    exact .nil
  obtain ⟨winner, losers, sorted⟩ := exists_sorted empty
  have perm := perm_sortedBy CandidateAction.key members
  rw [sorted] at perm
  rw [answerGroup_eq sorted, List.map_cons, List.map_map]
  exact (List.map_id losers).symm ▸ perm

/-- A candidate that none of its resource stands before. -/
def Leads (candidates : List CandidateAction) (c : CandidateAction) : Prop :=
  c ∈ candidates ∧ ∀ other ∈ candidates, other.resourceId = c.resourceId → c.key ≤ other.key

/-- No two different candidates share the first place of a resource. Such candidates differ in
`deferrable` alone. -/
def Unrivalled (candidates : List CandidateAction) : Prop :=
  ∀ c other, Leads candidates c → Leads candidates other → c.resourceId = other.resourceId →
    c = other

theorem leads_of_sorted
    (sorted : sortedBy CandidateAction.key (group candidates resourceId) = winner :: losers) :
    Leads candidates winner ∧ winner.resourceId = resourceId := by
  have member : winner ∈ group candidates resourceId := by
    refine (perm_sortedBy CandidateAction.key _).subset ?_
    rw [sorted]
    exact List.mem_cons_self
  obtain ⟨isCandidate, here⟩ := List.mem_filter.1 member
  have here := of_decide_eq_true here
  refine ⟨⟨isCandidate, fun other isOther same => ?_⟩, here⟩
  have isMember : other ∈ winner :: losers := by
    rw [← sorted, mem_sortedBy]
    exact List.mem_filter.2 ⟨isOther, decide_eq_true (same.trans here)⟩
  have pairwise := pairwise_sortedBy CandidateAction.key (group candidates resourceId)
  rw [sorted] at pairwise
  rcases List.mem_cons.1 isMember with rfl | isLoser
  · exact le_rfl
  · exact (List.pairwise_cons.1 pairwise).1 other isLoser

/-- **Who comes first of those that lead** wins. -/
theorem sorted_of_leads (leads : Leads (c :: candidates) c) :
    ∃ losers, sortedBy CandidateAction.key (group (c :: candidates) c.resourceId) =
      c :: losers := by
  refine ⟨sortedBy CandidateAction.key (group candidates c.resourceId), ?_⟩
  rw [group, List.filter_cons_of_pos (by simp)]
  change List.orderedInsert _ c (sortedBy CandidateAction.key (group candidates c.resourceId)) = _
  cases rest : sortedBy CandidateAction.key (group candidates c.resourceId) with
  | nil => rfl
  | cons first others =>
    have member : first ∈ group candidates c.resourceId := by
      refine (perm_sortedBy CandidateAction.key _).subset ?_
      rw [rest]
      exact List.mem_cons_self
    obtain ⟨isCandidate, here⟩ := List.mem_filter.1 member
    rw [List.orderedInsert, if_pos]
    exact leads.2 first (List.mem_cons_of_mem _ isCandidate) (of_decide_eq_true here)

/-! ## The resolution -/

def outcomes (candidates : List CandidateAction) : List (CandidateAction × PrecedenceOutcome) :=
  (answers candidates).map fun answer => (answer.1, answer.2.outcome)

def winners (resourceId : String) (decided : List (CandidateAction × PrecedenceOutcome)) :
    List (CandidateAction × PrecedenceOutcome) :=
  decided.filter fun answer => answer.1.resourceId = resourceId ∧ answer.2 = .win

/-- Every candidate is answered once, under its own id and vertical. -/
structure AnswersOnce (candidates : List CandidateAction) : Prop where
  perm : ((answers candidates).map Prod.fst).Perm candidates
  own : ∀ answer ∈ answers candidates,
    answer.2.actionId = answer.1.actionId ∧ answer.2.vertical = answer.1.vertical

/-- Each resource has one winner. -/
def OneWinner (candidates : List CandidateAction) : Prop :=
  ∀ c ∈ candidates, (winners c.resourceId (outcomes candidates)).length = 1

/-- No permutation of the candidates changes what becomes of them. -/
def OrderFree (candidates : List CandidateAction) : Prop :=
  ∀ permuted : List CandidateAction, permuted.Perm candidates →
    (outcomes permuted).Perm (outcomes candidates)

theorem answersOnce (candidates : List CandidateAction) : AnswersOnce candidates where
  perm := by
    rw [answers, List.map_flatMap]
    refine .trans (.flatMap_left _ fun resourceId _ => answerGroup_perm) ?_
    exact groups_perm nodup_distinct fun c isCandidate =>
      mem_distinct.2 (List.mem_map_of_mem isCandidate)
  own := by
    intro answer isAnswer
    obtain ⟨resourceId, -, isAnswer⟩ := List.mem_flatMap.1 isAnswer
    by_cases empty : group candidates resourceId = []
    · rw [empty] at isAnswer
      cases isAnswer
    obtain ⟨winner, losers, sorted⟩ := exists_sorted empty
    rw [answerGroup_eq sorted] at isAnswer
    rcases List.mem_cons.1 isAnswer with rfl | isLoser
    · exact ⟨rfl, rfl⟩
    · obtain ⟨loser, -, rfl⟩ := List.mem_map.1 isLoser
      exact identity_lost

/-- **The winner of a resource** is the first of its candidates. -/
theorem winners_eq
    (sorted : sortedBy CandidateAction.key (group candidates resourceId) = winner :: losers) :
    winners resourceId (outcomes candidates) = [(winner, .win)] := by
  obtain ⟨leads, here⟩ := leads_of_sorted sorted
  have isResource : resourceId ∈ distinct (candidates.map CandidateAction.resourceId) :=
    mem_distinct.2 (List.mem_map.2 ⟨winner, leads.1, here⟩)
  rw [winners, outcomes, answers, List.map_flatMap, List.filter_flatMap,
    flatMap_eq_of_nodup nodup_distinct isResource fun other _ apart => ?_]
  · rw [answerGroup_eq sorted, List.map_cons, List.filter_cons_of_pos (by simp [here, won])]
    simp [won, outcome_lost]
  · refine List.filter_eq_nil_iff.2 fun answer isAnswer => ?_
    obtain ⟨pair, isPair, rfl⟩ := List.mem_map.1 isAnswer
    have isMember := answerGroup_perm.subset (List.mem_map_of_mem isPair)
    have there := of_decide_eq_true (List.mem_filter.1 isMember).2
    simp [there, apart]

theorem oneWinner (candidates : List CandidateAction) : OneWinner candidates := by
  intro c isCandidate
  have nonempty : group candidates c.resourceId ≠ [] :=
    List.ne_nil_of_mem (List.mem_filter.2 ⟨isCandidate, decide_eq_true rfl⟩)
  obtain ⟨winner, losers, sorted⟩ := exists_sorted nonempty
  rw [winners_eq sorted]
  rfl

theorem Leads.perm (perm : candidates.Perm candidates') (leads : Leads candidates c) :
    Leads candidates' c :=
  ⟨perm.mem_iff.1 leads.1, fun other isOther => leads.2 other (perm.mem_iff.2 isOther)⟩

/-- **Without rivals** the order of the candidates does not matter. -/
theorem answers_perm (unrivalled : Unrivalled candidates) (perm : candidates'.Perm candidates) :
    (answers candidates').Perm (answers candidates) := by
  refine .flatMap (distinct_perm (perm.map _)) fun resourceId _ => ?_
  have groups : (group candidates' resourceId).Perm (group candidates resourceId) :=
    perm.filter _
  by_cases empty : group candidates resourceId = []
  · rw [empty, List.perm_nil] at groups
    rw [groups, empty]
  obtain ⟨winner, losers, sorted⟩ := exists_sorted empty
  obtain ⟨winner', losers', sorted'⟩ := exists_sorted fun empty' : group candidates' _ = [] =>
    empty (List.nil_perm.1 (empty' ▸ groups))
  obtain ⟨leads, here⟩ := leads_of_sorted sorted
  obtain ⟨leads', here'⟩ := leads_of_sorted sorted'
  obtain rfl : winner' = winner := unrivalled _ _ (leads'.perm perm) leads (here'.trans here.symm)
  have others : (winner' :: losers').Perm (winner' :: losers) := by
    rw [← sorted, ← sorted']
    exact (perm_sortedBy _ _).trans (groups.trans (perm_sortedBy _ _).symm)
  rw [answerGroup_eq sorted, answerGroup_eq sorted']
  exact .cons _ ((List.perm_cons _).1 others |>.map _)

theorem winners_of_leads (leads : Leads candidates c) :
    winners c.resourceId (outcomes (c :: candidates.erase c)) = [(c, .win)] := by
  obtain ⟨losers, sorted⟩ := sorted_of_leads (leads.perm (List.perm_cons_erase leads.1))
  exact winners_eq sorted

/-- **Resolution.** Every candidate is answered once, each resource has one winner, and no
permutation changes an outcome, exactly if no two different candidates share a first place. -/
theorem resolution_exact_iff (candidates : List CandidateAction) :
    (AnswersOnce candidates ∧ OneWinner candidates ∧ OrderFree candidates) ↔
      Unrivalled candidates := by
  constructor
  · rintro ⟨-, -, orderFree⟩ c other leads leads' same
    have first := orderFree _ (List.perm_cons_erase leads.1).symm
    have second := orderFree _ (List.perm_cons_erase leads'.1).symm
    have won : (winners c.resourceId (outcomes (c :: candidates.erase c))).Perm
        (winners c.resourceId (outcomes (other :: candidates.erase other))) :=
      (first.trans second.symm).filter _
    rw [winners_of_leads leads, same, winners_of_leads leads'] at won
    simpa using won
  · intro unrivalled
    exact ⟨answersOnce candidates, oneWinner candidates, fun permuted perm =>
      (answers_perm unrivalled perm).map _⟩

private def restart (deferrable : Bool) : CandidateAction :=
  { actionId := "restart", resourceId := "vm-1", vertical := .changeSafety, deferrable }

/-- Whichever of the two comes first wins. -/
theorem rivals_decided_by_order :
    ¬ ∀ candidates, AnswersOnce candidates ∧ OneWinner candidates ∧ OrderFree candidates := by
  intro always
  have orderFree := (always [restart true, restart false]).2.2
  have perm := orderFree [restart false, restart true] (.swap _ _ _)
  exact absurd perm (by decide +kernel)

end Fdai.Core.Precedence
