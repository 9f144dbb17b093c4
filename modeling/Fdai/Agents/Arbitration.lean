import Mathlib.Algebra.Order.Ring.Rat
import Mathlib.Data.Prod.Lex
import Mathlib.Data.String.Basic
import Fdai.Providers.Value
import Fdai.Sequences.FirstSeen
import Fdai.Sequences.Keyed
import Fdai.Sequences.SortedBy

/-!
# Arbitration between domains

The arbiter weighs the domains of a conflict by their impacts. Where the two best are close, or
a domain has no weight, or its impact is no number, the conflict goes to a person. A temporal
policy changes the weights for one call, from the decisions of the past.

* `MultiObjectiveArbiter.resolve` — the arbiter, `TemporalPolicy.adjust` — the policies.
* `doubt_escalates_iff` — a doubtful domain escalates, except one that had no weight until the
  policy gave it one; a conflict with no other doubtful domain escalates on a close call only.
-/

namespace Fdai.Core.Arbitration

open Fdai.Sequences

/-- The double next to a rational. No number of the arbiter is too large for one. -/
def nearest (q : ℚ) : ℚ :=
  match PyFloat.ofRat q with
  | .finite rounded => rounded
  | _ => 0

section

-- the rounding of doubles
variable (double : ℚ → ℚ)

/-- `round(…, 6)`. -/
def round6 (q : ℚ) : ℚ := double (PyFloat.roundHalfEven (q * 1000000) / 1000000)

/-- The weight of each domain: finite, and not negative. -/
abbrev Weights := Keyed (Prod.fst : String × NNRat → String)

/-- The weight of a domain, or nothing. -/
def Weights.weight (weights : Weights) (domain : String) : NNRat :=
  (weights.get domain).elim 0 Prod.snd

/-- `weights[domain] = weights.get(domain, 0.0) + amount`. -/
def Weights.raise (weights : Weights) (amount : NNRat) (domain : String) : Weights :=
  weights.put (domain, (double (weights.weight domain + amount)).toNNRat)

structure RecentDecision where
  winner : String
  losers : List String

/-- The decisions between domains of the conflict, the latest first. -/
def relevant (domains : List String) (history : List RecentDecision) : List RecentDecision :=
  history.reverse.filter fun decision =>
    decision.winner ∈ domains ∧ decision.losers.any (· ∈ domains)

structure AlternatingFairnessPolicy where
  streakThreshold : ℕ := 3
  boost : NNRat := (nearest (3 / 20)).toNNRat
  two_le_threshold : 2 ≤ streakThreshold
  boost_pos : 0 < boost
  boost_le_one : boost ≤ 1

/-- The winner of the latest decisions, where their number reaches the threshold. -/
def AlternatingFairnessPolicy.streak (policy : AlternatingFairnessPolicy) (domains : List String)
    (history : List RecentDecision) : Option String :=
  match relevant domains history with
  | [] => none
  | latest :: earlier =>
    let streak := ((latest :: earlier).takeWhile (·.winner = latest.winner)).length
    if streak < policy.streakThreshold then none else some latest.winner

structure HysteresisPolicy where
  window : ℕ := 5
  bonus : NNRat := (nearest (1 / 10)).toNNRat
  two_le_window : 2 ≤ window
  bonus_pos : 0 < bonus
  bonus_le_one : bonus ≤ 1

/-- The latest winner, where the decisions of the window have several. -/
def HysteresisPolicy.incumbent (policy : HysteresisPolicy) (domains : List String)
    (history : List RecentDecision) : Option String :=
  match (relevant domains history).take policy.window with
  | [] => none
  | latest :: earlier =>
    if (distinct ((latest :: earlier).map (·.winner))).length < 2 then none
    else some latest.winner

/-- The policies that are shipped. -/
inductive TemporalPolicy where
  | alternating (policy : AlternatingFairnessPolicy)
  | hysteresis (policy : HysteresisPolicy)

def TemporalPolicy.name : TemporalPolicy → String
  | .alternating _ => "alternating_fairness"
  | .hysteresis _ => "hysteresis"

def TemporalPolicy.adjust (base : Weights) (domains : List String)
    (history : List RecentDecision) : TemporalPolicy → Weights
  | .alternating policy =>
    match policy.streak domains history with
    | none => base
    | some top => (domains.filter (· ≠ top)).foldl (Weights.raise double · policy.boost ·) base
  | .hysteresis policy =>
    match policy.incumbent domains history with
    | none => base
    | some last => base.raise double policy.bonus last

/-- What `float(…)` makes of an impact: a double, or an exception. -/
abbrev Impacts := Keyed (Prod.fst : String × Option PyFloat → String)

/-- The impact of a domain, `_as_float(impacts.get(domain, 1.0))`. -/
def Impacts.impact (impacts : Impacts) (domain : String) : PyFloat :=
  match impacts.get domain with
  | none => .finite 1
  | some (_, read) => read.getD .nan

def isFinite : PyFloat → Bool
  | .finite _ => true
  | _ => false

/-- Why the arbiter decides what it decides. -/
inductive ArbitrationReason where
  | emptyConflict
  | unknownDomain (domains : List String)
  | nonfiniteImpact (domains : List String)
  | closeCall (margin hilMargin : ℚ) (policy : Option String)
  | decided (mode : String) (priority : List String) (policy : Option String)
  deriving DecidableEq

structure ArbitrationOutcome where
  winner : String
  losers : List String
  objectiveScores : List (String × ℚ)
  margin : ℚ
  escalateHil : Bool
  reason : ArbitrationReason
  deriving DecidableEq

structure MultiObjectiveArbiter where
  priority : List String := ["resilience", "security", "change_safety", "cost", "capacity"]
  weights : Weights
  hilMargin : NNRat := (nearest (1 / 10)).toNNRat

-- the order of ℕ that computes
local instance rankOrder : LinearOrder ℕ := Nat.instLinearOrder

namespace MultiObjectiveArbiter

variable (arbiter : MultiObjectiveArbiter) (domains : List String) (impacts : Impacts)
  (history : List RecentDecision) (policy : Option TemporalPolicy)

/-- The weights of one call. -/
def adjusted : Weights :=
  match policy with
  | none => arbiter.weights
  | some policy => policy.adjust double arbiter.weights domains history

def score (weights : Weights) (domain : String) : ℚ :=
  let impact : ℚ := match impacts.impact domain with
    | .finite value => max 0 (min 1 value)
    | _ => 0
  round6 double (double (weights.weight domain * impact))

/-- The domains, the best first. -/
def ranked (weights : Weights) : List String :=
  sortedBy (fun domain => toLex (-score double impacts weights domain,
    toLex (arbiter.priority.idxOf domain, domain))) domains

/-- How far the best is ahead of the second. -/
def margin (weights : Weights) : ℚ :=
  let scores := (arbiter.ranked double domains impacts weights).map (score double impacts weights)
  let top := scores[0]?.getD 0
  if 0 < top then round6 double (double (double (top - scores[1]?.getD 0) / top)) else 0

/-- `resolve`. It refuses a policy that leaves no weights at all. -/
def resolve : Except String ArbitrationOutcome :=
  let domains := distinct domains
  if domains = [] then
    .ok { winner := "unknown", losers := [], objectiveScores := [], margin := 0
          escalateHil := true, reason := .emptyConflict }
  else
    let weights := arbiter.adjusted double domains history policy
    if policy.isSome ∧ weights.values = [] then
      .error "temporal policy MUST return a non-empty dict of domain weights"
    else
      let note := if weights.values = arbiter.weights.values then none
        else policy.map TemporalPolicy.name
      let nonfinite := domains.filter fun domain => !isFinite (impacts.impact domain)
      let unknown := domains.filter fun domain => (weights.get domain).isNone
      let ranked := arbiter.ranked double domains impacts weights
      let margin := arbiter.margin double domains impacts weights
      let escalate := unknown ≠ [] || nonfinite ≠ [] ||
        (1 < domains.length && margin < arbiter.hilMargin)
      .ok {
        winner := ranked.headD "unknown"
        losers := ranked.tail
        objectiveScores := domains.map fun domain => (domain, score double impacts weights domain)
        margin
        escalateHil := escalate
        reason :=
          if unknown ≠ [] then .unknownDomain (sortedBy id unknown)
          else if nonfinite ≠ [] then .nonfiniteImpact (sortedBy id nonfinite)
          else if escalate then .closeCall margin arbiter.hilMargin note
          else .decided (if impacts.values = [] then "priority_order" else "multi_objective")
            arbiter.priority note }

/-! ## Doubtful domains -/

/-- No winner is selected: a decision that is made goes to a person. -/
def Escalates : Prop :=
  ∀ outcome, arbiter.resolve double domains impacts history policy = .ok outcome →
    outcome.escalateHil = true

/-- The policy gives a domain a weight, or a larger one. -/
def Lifts (domain : String) : Prop :=
  match policy with
  | none => False
  | some (.alternating policy) =>
    ∃ top, policy.streak (distinct domains) history = some top ∧ domain ≠ top
  | some (.hysteresis policy) => policy.incumbent (distinct domains) history = some domain

/-- The two best of several domains are close. -/
def CloseCall : Prop :=
  let weights := arbiter.adjusted double (distinct domains) history policy
  1 < (distinct domains).length ∧
    arbiter.margin double (distinct domains) impacts weights < arbiter.hilMargin

end MultiObjectiveArbiter

variable {double} {weights : Weights} {amount : NNRat} {domain : String} {domains : List String}
  {history : List RecentDecision} {policy : Option TemporalPolicy}
  {arbiter : MultiObjectiveArbiter} {impacts : Impacts}

theorem known_raise {raised : String} : ((weights.raise double amount raised).get domain).isSome ↔
      (weights.get domain).isSome ∨ domain = raised := by
  rw [Weights.raise, Keyed.get_put]
  by_cases same : domain = raised <;> simp [same]

theorem known_foldl : (((domains.foldl (Weights.raise double · amount ·) weights).get
    domain).isSome ↔ (weights.get domain).isSome ∨ domain ∈ domains) := by
  induction domains generalizing weights with
  | nil => simp
  | cons first rest ih => rw [List.foldl_cons, ih, known_raise, List.mem_cons, or_assoc]

namespace MultiObjectiveArbiter

/-- **What a policy makes known**: the domains it gives a weight. -/
theorem known_adjusted (isDomain : domain ∈ domains) :
    ((arbiter.adjusted double (distinct domains) history policy).get domain).isSome ↔
      (arbiter.weights.get domain).isSome ∨ Lifts domains history policy domain := by
  have isDomain : domain ∈ distinct domains := mem_distinct.2 isDomain
  match policy with
  | none => simp [adjusted, Lifts]
  | some (.alternating policy) =>
    simp only [adjusted, TemporalPolicy.adjust, Lifts]
    cases policy.streak (distinct domains) history with
    | none => simp
    | some top => simp [known_foldl, isDomain]
  | some (.hysteresis policy) =>
    simp only [adjusted, TemporalPolicy.adjust, Lifts]
    rcases policy.incumbent (distinct domains) history with _ | last
    · simp
    exact known_raise.trans (or_congr_right (by rw [Option.some.injEq, eq_comm]))

/-- **Doubtful domains.** A conflict with one escalates exactly if an impact is no number, or a
domain without a weight gets none from the policy, or the call is a close one. -/
theorem doubt_escalates_iff (double : ℚ → ℚ) (arbiter : MultiObjectiveArbiter)
    (domains : List String) (impacts : Impacts) (history : List RecentDecision)
    (policy : Option TemporalPolicy)
    (doubtful : ∃ domain ∈ domains,
      arbiter.weights.get domain = none ∨ isFinite (impacts.impact domain) = false) :
    Escalates double arbiter domains impacts history policy ↔
      (∃ domain ∈ domains, isFinite (impacts.impact domain) = false) ∨
        (∃ domain ∈ domains, arbiter.weights.get domain = none ∧
          ¬ Lifts domains history policy domain) ∨
        CloseCall double arbiter domains impacts history policy := by
  have unlifted (domain : String) (isDomain : domain ∈ domains) :
      (arbiter.adjusted double (distinct domains) history policy).get domain = none ↔
        arbiter.weights.get domain = none ∧ ¬ Lifts domains history policy domain := by
    have known := (@known_adjusted double domain domains history policy arbiter isDomain).not
    simpa [not_or] using known
  obtain ⟨domain, isDomain, doubt⟩ := doubtful
  have some : distinct domains ≠ [] := List.ne_nil_of_mem (mem_distinct.2 isDomain)
  unfold Escalates resolve
  rw [if_neg some]
  dsimp only
  split
  · rename_i refused
    refine ⟨fun _ => ?_, fun _ outcome answered => by cases answered⟩
    rcases doubt with unknown | unusable
    · refine .inr (.inl ⟨domain, isDomain, (unlifted domain isDomain).1 ?_⟩)
      simp [Keyed.get, refused.2]
    · exact .inl ⟨domain, isDomain, unusable⟩
  · have known : ((distinct domains).filter fun domain => ((arbiter.adjusted double
        (distinct domains) history policy).get domain).isNone) ≠ [] ↔ ∃ domain ∈ domains,
          arbiter.weights.get domain = none ∧ ¬ Lifts domains history policy domain := by
      simp only [ne_eq, List.filter_eq_nil_iff, mem_distinct, not_forall, not_not,
        Option.isNone_iff_eq_none, exists_prop]
      exact exists_congr fun domain => and_congr_right fun isDomain => unlifted domain isDomain
    have usable : ((distinct domains).filter fun domain =>
        !isFinite (impacts.impact domain)) ≠ [] ↔
          ∃ domain ∈ domains, isFinite (impacts.impact domain) = false := by
      simp [List.filter_eq_nil_iff]
    simp only [Except.ok.injEq, forall_eq', Bool.or_eq_true, Bool.and_eq_true, decide_eq_true_eq,
      known, usable]
    rw [or_comm (b := ∃ domain ∈ domains, _), or_assoc]
    rfl

end MultiObjectiveArbiter

end

theorem nearest_one : nearest 1 = 1 := by
  have limit : (1 : ℚ) < 2 ^ 1024 := one_lt_pow₀ one_lt_two (by decide)
  rw [nearest, PyFloat.ofRat, abs_one, Int.log_one_right]
  norm_num [PyFloat.roundHalfEven, zpow_neg]
  rw [if_neg limit.not_ge]

/-- The rounding, at the numbers of the run below. -/
private def tabled (q : ℚ) : ℚ := if q = 1 then 1 else nearest q

theorem nearest_eq_tabled : nearest = tabled := by
  funext q
  unfold tabled
  split
  · rename_i one
    rw [one, nearest_one]
  · rfl

/-- An arbiter that knows the domain of cost only. -/
private def costArbiter : MultiObjectiveArbiter where
  weights := Keyed.empty.put ("cost", 1)
  hilMargin := 1 / 4

private def fairness : AlternatingFairnessPolicy where
  streakThreshold := 2
  boost := 1
  two_le_threshold := le_rfl
  boost_pos := one_pos
  boost_le_one := le_rfl

/-- The domain of cost won twice. -/
private def costWon : List RecentDecision := List.replicate 2 ⟨"cost", ["tenancy"]⟩

/-- The other domain has no impact. -/
private def idle : Impacts := Keyed.empty.put ("tenancy", some (.finite 0))

/-- The policy gives the other domain a weight, and then the one of cost wins. -/
theorem unknown_domain_decided :
    ¬ ∀ (arbiter : MultiObjectiveArbiter) (domains : List String) (impacts : Impacts)
      (history : List RecentDecision) (policy : TemporalPolicy),
      (∃ domain ∈ domains,
        arbiter.weights.get domain = none ∨ isFinite (impacts.impact domain) = false) →
      arbiter.Escalates nearest domains impacts history policy := by
  intro always
  have escalates := always costArbiter ["cost", "tenancy"] idle costWon (.alternating fairness)
    ⟨"tenancy", by decide +kernel⟩
  rw [nearest_eq_tabled] at escalates
  have decided : ∃ outcome, costArbiter.resolve tabled ["cost", "tenancy"] idle costWon
      (some (.alternating fairness)) = .ok outcome ∧ outcome.escalateHil = false := by
    exact ⟨_, rfl, by decide +kernel⟩
  obtain ⟨outcome, found, selects⟩ := decided
  simp [escalates outcome found] at selects

/-- Without a policy the unknown domain escalates. -/
theorem doubt_escalates_tenancy :
    costArbiter.Escalates nearest ["cost", "tenancy"] Keyed.empty [] none :=
  (MultiObjectiveArbiter.doubt_escalates_iff nearest costArbiter ["cost", "tenancy"] Keyed.empty []
    none ⟨"tenancy", by decide +kernel⟩).2
      (.inr (.inl ⟨"tenancy", by decide +kernel, by decide +kernel, id⟩))

end Fdai.Core.Arbitration
