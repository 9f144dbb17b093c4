import Fdai.RiskGate.RiskTable
import Fdai.Sequences.FirstMatch

/-!
# What the risk table decides

The loader orders the rules by strictness but passes the default rule over, so a default
rule may stand before other rules — and decides wherever it is reached.

* `WellOrdered` — what the loader ensures of the rules; `loaded_wellOrdered`.
* `RiskTable.MostRestrictive` — the strictest matching rule decides, and the default rule
  only where no other matches.
-/

namespace Fdai.Core

open Fdai.Sequences

/-- The rules besides the default ones. -/
def ordinaryRules (rules : List RiskRule) : List RiskRule := rules.filter (!·.isDefault)

/-- Strictness as the ordering check compares it. -/
def RiskRule.rank (rule : RiskRule) : ℤ := rule.decision.strictness

/-- What the loader ensures of the rules of a table. -/
structure WellOrdered (rules : List RiskRule) : Prop where
  /-- The ordinary rules stand in the order deny, hil, auto. -/
  ordered : OrderedBy RiskRule.rank (ordinaryRules rules)
  oneDefault : (rules.filter (·.isDefault)).length = 1
  /-- It fails toward safety. -/
  defaultSafe : ∀ rule ∈ rules, rule.isDefault = true → rule.decision ≠ .auto

variable {py : Python}

/-- The ordering check scans the ordinary rules with a running maximum. -/
theorem validateOrdering_eq (seen : ℤ) (rules : List RiskRule) : validateOrdering py seen rules =
      (outOfOrder RiskRule.rank seen (ordinaryRules rules)).map (orderIssue py) := by
  induction rules generalizing seen with
  | nil => rfl
  | cons rule rest ih =>
    cases isDefault : rule.isDefault with
    | true => simp [validateOrdering, ordinaryRules, isDefault, ih]
    | false =>
      by_cases below : rule.rank < seen
      · have highest : max seen rule.rank = seen := max_eq_left below.le
        rw [RiskRule.rank] at below highest
        simp [validateOrdering, ordinaryRules, isDefault, outOfOrder, RiskRule.rank, below,
          highest, ih]
      have highest : max seen rule.rank = rule.rank := max_eq_right (not_lt.1 below)
      rw [RiskRule.rank] at below highest
      simp [validateOrdering, ordinaryRules, isDefault, outOfOrder, RiskRule.rank, below,
        highest, ih]

/-- The loop over the rules counts the default rules it adds. -/
theorem loadRule_defaultCount {loading : Loading} (row : Value × ℕ)
    (counted : loading.defaultCount = (loading.rules.filter (·.isDefault)).length) :
    (loadRule py loading row).defaultCount =
      ((loadRule py loading row).rules.filter (·.isDefault)).length := by
  obtain ⟨raw, index⟩ := row
  cases raw with
  | mapping entries =>
    cases byDefault : Value.get entries "default" with
    | none | some value => simp [loadRule, byDefault, counted]
  | _ => exact counted

theorem foldl_loadRule_defaultCount (rows : List (Value × ℕ)) {loading : Loading}
    (counted : loading.defaultCount = (loading.rules.filter (·.isDefault)).length) :
    (rows.foldl (loadRule py) loading).defaultCount =
      ((rows.foldl (loadRule py) loading).rules.filter (·.isDefault)).length := by
  induction rows generalizing loading with
  | nil => exact counted
  | cons row rest ih => exact ih (loadRule_defaultCount row counted)

theorem wellOrdered_of_clean {loading : Loading}
    (counted : loading.defaultCount = (loading.rules.filter (·.isDefault)).length)
    (clean : tableIssues py loading = []) : WellOrdered loading.rules := by
  obtain ⟨⟨⟨-, ordering⟩, single⟩, safe⟩ : ((_ ∧ _) ∧ _) ∧ _ := by
    simpa only [tableIssues, List.append_eq_nil_iff] using clean
  have one : loading.defaultCount = 1 := by
    by_contra many
    simp [many] at single
  rw [validateOrdering_eq, List.map_eq_nil_iff, outOfOrder_eq_nil] at ordering
  refine ⟨ordering.2, counted ▸ one, fun rule isRule isDefault automatic => ?_⟩
  obtain ⟨only, defaults⟩ := List.length_eq_one_iff.1 (counted ▸ one)
  have isOnly : rule ∈ loading.rules.filter (·.isDefault) :=
    List.mem_filter.2 ⟨isRule, isDefault⟩
  rw [defaults, List.mem_singleton] at isOnly
  subst isOnly
  simp [defaultIssue, defaults, automatic] at safe

/-- **What the loader accepts.** The rules of a loaded table are well ordered. -/
theorem loaded_wellOrdered {raw : Value} {table : RiskTable}
    (loaded : loadRiskTableFromMapping py raw = .ok table) : WellOrdered table.rules := by
  unfold loadRiskTableFromMapping at loaded
  split at loaded
  · split at loaded
    · simp only at loaded
      split at loaded
      · cases loaded
      rename_i clean
      obtain rfl := Except.ok.inj loaded
      exact wellOrdered_of_clean (foldl_loadRule_defaultCount _ rfl) (not_not.1 clean)
    · cases loaded
  · cases loaded

/-! ## What a table decides -/

namespace RiskTable

variable (table : RiskTable) (v : FeatureVector)

/-- An ordinary rule matches the vector. -/
def OrdinaryMatch : Prop :=
  ∃ rule ∈ table.rules, rule.isDefault = false ∧ rule.matchesVector v = true

/-- An ordinary rule that stands before the default one matches the vector. -/
def EarlyMatch : Prop :=
  ∃ rule ∈ table.rules.takeWhile (!·.isDefault), rule.matchesVector v = true

/-- **Restrictiveness.** Where an ordinary rule matches, the verdict is that of a matching
ordinary rule with the most restrictive decision among them; else it is that of the
default rule. -/
structure MostRestrictive : Prop where
  ordinary : table.OrdinaryMatch v → ∃ rule, table.decidingRule v = some rule ∧
    rule.isDefault = false ∧ table.evaluate v = rule.verdict ∧
    ∀ other ∈ table.rules, other.isDefault = false → other.matchesVector v = true →
      rule.decision.strictness ≤ other.decision.strictness
  default : ¬ table.OrdinaryMatch v → ∃ rule, table.decidingRule v = some rule ∧
    rule.isDefault = true ∧ table.evaluate v = rule.verdict

variable {table v}

theorem evaluate_of_deciding {rule : RiskRule} (decides : table.decidingRule v = some rule) :
    table.evaluate v = rule.verdict := by
  rw [evaluate, decides]

theorem split_at_default {rules : List RiskRule} (ordered : WellOrdered rules) :
    ∃ before default after, rules = before ++ default :: after ∧ default.isDefault = true ∧
      rules.takeWhile (!·.isDefault) = before ∧
      (∀ rule ∈ before, rule.isDefault = false) := by
  have atDefault : rules.dropWhile (!·.isDefault) ≠ [] := by
    intro all
    rw [List.dropWhile_eq_nil_iff] at all
    have none : rules.filter (·.isDefault) = [] :=
      List.filter_eq_nil_iff.2 fun rule isRule => by simpa using all rule isRule
    have one := ordered.oneDefault
    rw [none] at one
    cases one
  obtain ⟨default, after, rest⟩ := List.exists_cons_of_ne_nil atDefault
  refine ⟨_, default, after, ?_, ?_, rfl, fun rule early => ?_⟩
  · rw [← rest, List.takeWhile_append_dropWhile]
  · have stops := List.head_dropWhile_not (fun rule : RiskRule => !rule.isDefault) atDefault
    simp only [rest, List.head_cons] at stops
    simpa using stops
  · simpa using List.mem_takeWhile_imp early

/-- **Which rule decides.** An ordinary rule, the first one that matches, if one matches
before the default rule; the default rule otherwise. -/
theorem deciding_cases (ordered : WellOrdered table.rules) :
    (table.EarlyMatch v ∧ ∃ rule, table.decidingRule v = some rule ∧
      rule ∈ ordinaryRules table.rules ∧
      (ordinaryRules table.rules).find? (·.matchesVector v) = some rule) ∨
    (¬ table.EarlyMatch v ∧ ∃ rule, table.decidingRule v = some rule ∧ rule.isDefault = true) := by
  obtain ⟨before, default, after, rules, isDefault, early, ordinary⟩ := split_at_default ordered
  have kept : before.filter (!·.isDefault) = before :=
    List.filter_eq_self.2 fun rule isRule => by simp [ordinary rule isRule]
  rw [EarlyMatch, early, decidingRule, ordinaryRules, rules, List.find?_append,
    List.filter_append, kept, List.find?_append]
  cases found : before.find? (·.matchesVector v) with
  | some rule =>
    have isRule := List.mem_of_find?_eq_some found
    refine .inl ⟨⟨rule, isRule, List.find?_some found⟩, rule, rfl, ?_, rfl⟩
    exact List.mem_append_left _ isRule
  | none =>
    refine .inr ⟨?_, default, ?_, isDefault⟩
    · rintro ⟨rule, isRule, holds⟩
      exact absurd holds (by simpa using List.find?_eq_none.1 found rule isRule)
    · simp [RiskRule.matchesVector, isDefault]

theorem ordinaryMatch_of_early (ordered : WellOrdered table.rules)
    (early : table.EarlyMatch v) : table.OrdinaryMatch v := by
  obtain ⟨before, default, after, rules, -, isBefore, ordinary⟩ := split_at_default ordered
  obtain ⟨rule, isRule, holds⟩ := early
  rw [isBefore] at isRule
  exact ⟨rule, rules ▸ List.mem_append_left _ isRule, ordinary rule isRule, holds⟩

/-- What a well-ordered table decides is the most restrictive exactly where no ordinary
rule matches or one matches early. -/
theorem mostRestrictive_of_wellOrdered (ordered : WellOrdered table.rules) :
    table.MostRestrictive v ↔ (¬ table.OrdinaryMatch v ∨ table.EarlyMatch v) := by
  rcases deciding_cases (v := v) ordered with
    ⟨early, rule, decides, isOrdinary, found⟩ | ⟨late, rule, decides, isDefault⟩
  · refine ⟨fun _ => .inr early, fun _ => ⟨fun _ => ?_, fun unmatched => ?_⟩⟩
    · have notDefault : rule.isDefault = false := by
        simpa using (List.mem_filter.1 isOrdinary).2
      refine ⟨rule, decides, notDefault, evaluate_of_deciding decides,
        fun other isRule ordinary holds => ?_⟩
      have least := find?_least ordered.ordered found other
        (List.mem_filter.2 ⟨isRule, by simp [ordinary]⟩) holds
      simpa [RiskRule.rank] using least
    · exact absurd (ordinaryMatch_of_early ordered early) unmatched
  · constructor
    · intro restrictive
      refine .inl fun matched => ?_
      -- An ordinary rule should decide, but the default rule does.
      obtain ⟨rule', decides', ordinary, -⟩ := restrictive.ordinary matched
      rw [decides] at decides'
      obtain rfl := Option.some.inj decides'
      simp [isDefault] at ordinary
    · intro allowed
      have unmatched := allowed.resolve_right late
      exact ⟨fun matched => absurd matched unmatched, fun _ =>
        ⟨rule, decides, isDefault, evaluate_of_deciding decides⟩⟩

end RiskTable

/-- **Restrictiveness of a loaded table.** The verdict is the most restrictive one exactly
if no ordinary rule matches the vector, or one that stands before the default rule does. -/
theorem risk_table_most_restrictive (py : Python) (raw : Value) (table : RiskTable)
    (loaded : loadRiskTableFromMapping py raw = .ok table) (v : FeatureVector) :
    table.MostRestrictive v ↔ (¬ table.OrdinaryMatch v ∨ table.EarlyMatch v) :=
  RiskTable.mostRestrictive_of_wellOrdered (loaded_wellOrdered loaded)

/-- A rule row of a document that denies destructive actions. -/
def denyDestructiveRow : Value :=
  .mapping [(.str "id", .str "destructive"), (.str "decision", .str "deny"),
    (.str "if", .mapping [(.str "destructive", .bool true)])]

def defaultHilRow : Value :=
  .mapping [(.str "id", .str "otherwise"), (.str "default", .str "hil")]

def riskDocument (rows : List Value) : Value :=
  .mapping [(.str "version", .str "1"), (.str "owner_group", .str "risk-owners"),
    (.str "rules", .list rows)]

/-- The rules the two rows are loaded as. -/
def denyDestructive : RiskRule :=
  { ruleId := "destructive", decision := .deny, reason := "",
    conditions := [.equality "destructive" (.bool true)] }

def otherwiseHil : RiskRule :=
  { ruleId := "otherwise", decision := .hil, reason := "", isDefault := true }

/-- **A default rule that stands first hides a deny rule.** The loader accepts the table,
and a destructive action is not denied. -/
theorem default_first_hides_deny : ∃ table, loadRiskTableFromMapping .ascii
        (riskDocument [defaultHilRow, denyDestructiveRow]) = .ok table ∧
      (table.evaluate { destructive := some true }).decision = .hil ∧
      (∃ rule ∈ table.rules, rule.isDefault = false ∧ rule.decision = .deny ∧
        rule.matchesVector { destructive := some true } = true) ∧
      ¬ table.MostRestrictive { destructive := some true } := by
  have loaded : loadRiskTableFromMapping .ascii (riskDocument [defaultHilRow, denyDestructiveRow]) =
        .ok { version := "1", ownerGroup := "risk-owners",
              rules := [otherwiseHil, denyDestructive] } := by rfl
  refine ⟨_, loaded, rfl, ⟨denyDestructive, by simp, rfl, rfl, rfl⟩, fun restrictive => ?_⟩
  obtain ⟨rule, decides, ordinary, -⟩ :=
    restrictive.ordinary ⟨denyDestructive, by simp, rfl, rfl⟩
  obtain rfl : otherwiseHil = rule := Option.some.inj decides
  cases ordinary

/-- With the default rule at the end the same document denies the action. -/
theorem default_last_denies : ∃ table, loadRiskTableFromMapping .ascii
        (riskDocument [denyDestructiveRow, defaultHilRow]) = .ok table ∧
      table.MostRestrictive { destructive := some true } := by
  have loaded : loadRiskTableFromMapping .ascii (riskDocument [denyDestructiveRow, defaultHilRow]) =
        .ok { version := "1", ownerGroup := "risk-owners",
              rules := [denyDestructive, otherwiseHil] } := by rfl
  refine ⟨_, loaded, (risk_table_most_restrictive _ _ _ loaded _).2 (.inr ?_)⟩
  exact ⟨denyDestructive, by simp [denyDestructive, otherwiseHil], rfl⟩

end Fdai.Core
