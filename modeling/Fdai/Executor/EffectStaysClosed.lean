import Fdai.Executor.EffectLedger
import Fdai.Sequences.Chain

/-!
# A verified effect stays closed

What the projection of a lineage says, in terms of what the observers claimed and of the evidence they
had.

* `WellEvidenced` — evidence that carries a conclusive claim; `qualityDowngrade_eq_none`.
* `Observed` — a receipt, with the claim that it was created from.
* `Chain` — a contiguous chain of one dispatch; `validateLineage_eq_ok`.
* `Contradicted` — a well-evidenced failure follows the first verified observation.
* `effect_staysClosed` — **the projection**, of any lineage and of every extension of it.
-/

namespace Fdai.Core.IndependentEffect

open Fdai.Providers (Digest)

/-! ## Evidence -/

/-- **Evidence that carries a conclusive claim.** -/
structure WellEvidenced (quality : ObservationQuality) (observedAt : Zoned) : Prop where
  notSynthetic : quality.val.synthetic = false
  uncontested : quality.val.conflictingSourceCount = 0
  fresh : staleAt quality observedAt = .ok false
  final : quality.val.finality = .final
  complete : quality.val.completeness = .complete
  contained : quality.val.containment = .withinDeclaredTarget

theorem conflictCount_nonneg (quality : ObservationQuality) :
    0 ≤ quality.val.conflictingSourceCount := by
  have checked := quality.2
  simp only [checkQuality, validate_cons_eq_ok, effectCheck, decide_eq_true_eq] at checked
  exact checked.2.2.2.2.2.2.2.2.1

/-- **No downgrade** is forced exactly on evidence that carries the claim. -/
theorem qualityDowngrade_eq_none {quality : ObservationQuality} {observedAt : Zoned} :
    qualityDowngrade quality observedAt = .ok none ↔ WellEvidenced quality observedAt := by
  have nonneg := conflictCount_nonneg quality
  unfold qualityDowngrade
  constructor
  · intro passed
    split at passed
    · cases passed
    rename_i notSynthetic
    split at passed
    · cases passed
    rename_i uncontested
    obtain ⟨stale, isStale, passed⟩ := bind_eq_ok.1 passed
    have passed := Except.ok.inj passed
    cases stale with
    | true => cases passed
    | false =>
      simp only [Bool.false_eq_true, ↓reduceIte, ite_eq_right_iff, reduceCtorEq, imp_false,
        ite_eq_iff, and_false, false_or, not_not] at passed
      obtain ⟨final, complete, contained⟩ := passed
      exact ⟨Bool.eq_false_iff.2 notSynthetic, by omega, isStale, final, complete, contained⟩
  · rintro ⟨notSynthetic, uncontested, fresh, final, complete, contained⟩
    rw [if_neg (by simp [notSynthetic]), if_neg (by omega), fresh]
    simp only [final, complete, contained]
    rfl

/-- What weak evidence is forced to is not conclusive. -/
theorem inconclusive_of_downgrade {quality : ObservationQuality} {observedAt : Zoned}
    {weaker : IndependentEffectOutcome}
    (forced : qualityDowngrade quality observedAt = .ok (some weaker)) :
    weaker ≠ .verified ∧ weaker ≠ .failed := by
  unfold qualityDowngrade at forced
  split at forced
  · obtain rfl := Option.some.inj (Except.ok.inj forced)
    exact ⟨nofun, nofun⟩
  split at forced
  · obtain rfl := Option.some.inj (Except.ok.inj forced)
    exact ⟨nofun, nofun⟩
  obtain ⟨stale, -, forced⟩ := bind_eq_ok.1 forced
  have forced := Except.ok.inj forced
  split_ifs at forced <;> cases forced <;> exact ⟨nofun, nofun⟩

section

variable {casefold : String → String}

structure Observed (casefold : String → String) where
  claim : ObservationClaim
  receipt : IndependentEffectObservationReceipt casefold
  created : claim.create casefold = .ok receipt

/-- The observer claimed an outcome, on evidence that carries it. -/
def Observed.established (o : Observed casefold) (outcome : IndependentEffectOutcome) : Prop :=
  o.claim.outcome = outcome ∧ WellEvidenced o.claim.quality o.claim.observedAt

/-- **A conclusive outcome** is recorded exactly if it was claimed on evidence that carries it. -/
theorem Observed.outcome_iff (o : Observed casefold) {outcome : IndependentEffectOutcome}
    (conclusive : outcome = .verified ∨ outcome = .failed) :
    o.receipt.val.outcome = outcome ↔ o.established outcome := by
  obtain ⟨claim, receipt, created⟩ := o
  unfold ObservationClaim.create at created
  obtain ⟨downgrade, forced, created⟩ := bind_eq_ok.1 created
  obtain ⟨digest, -, created⟩ := bind_eq_ok.1 created
  have recorded : receipt.val.outcome = effectiveOutcome claim.outcome downgrade := by
    rw [construct_eq_ok.1 created]
    rfl
  show receipt.val.outcome = outcome ↔ claim.outcome = outcome ∧ _
  rw [recorded]
  rcases downgrade with _ | weaker
  · have evidenced := qualityDowngrade_eq_none.1 forced
    exact ⟨fun claimed => ⟨claimed, evidenced⟩, fun claimed => claimed.1⟩
  -- weak evidence carries no conclusive claim, and is not forced to one
  have weak : ¬ WellEvidenced claim.quality claim.observedAt := by
    intro evidenced
    rw [qualityDowngrade_eq_none.2 evidenced] at forced
    cases forced
  obtain ⟨notVerified, notFailed⟩ := inconclusive_of_downgrade forced
  constructor
  · intro isOutcome
    change (if claim.outcome = .verified ∨ claim.outcome = .failed then weaker
      else claim.outcome) = outcome at isOutcome
    split at isOutcome
    · rcases conclusive with rfl | rfl
      · exact absurd isOutcome notVerified
      · exact absurd isOutcome notFailed
    · rename_i inconclusive
      exact absurd (isOutcome ▸ conclusive) inconclusive
  · rintro ⟨-, evidenced⟩
    exact absurd evidenced weak

/-- A receipt follows the one before it. -/
structure Follows (prior receipt : IndependentEffectObservationReceipt casefold) : Prop where
  next : receipt.val.sequence = prior.val.sequence + 1
  linked : receipt.val.priorReceiptDigest = some prior.val.receiptDigest
  sameDispatch : receipt.val.binding.val.evidenceIdentityDigest =
    prior.val.binding.val.evidenceIdentityDigest

/-- **A contiguous chain** of one dispatch. -/
structure Chain (receipts : List (IndependentEffectObservationReceipt casefold)) (identity : Digest) :
    Prop where
  first : ∀ receipt ∈ receipts.head?, receipt.val.sequence = 1
  dispatch : ∀ receipt ∈ receipts.head?, receipt.val.binding.val.evidenceIdentityDigest = identity
  linked : receipts.IsChain Follows

theorem validateLineageFrom_eq_ok {index : ℕ}
    {prior : Option (IndependentEffectObservationReceipt casefold)}
    {receipts : List (IndependentEffectObservationReceipt casefold)}
    (isPrior : ∀ p ∈ prior, p.val.sequence = index) :
    validateLineageFrom index prior receipts = .ok () ↔
      (∀ receipt ∈ receipts.head?, receipt.val.sequence = index + 1) ∧
        (prior.toList ++ receipts).IsChain Follows := by
  induction receipts generalizing index prior with
  | nil =>
    cases prior with
    | none | some p => simp [validateLineageFrom]
  | cons receipt rest ih =>
    unfold validateLineageFrom
    rw [check_bind_eq_ok, validate_cons_eq_ok]
    constructor
    · rintro ⟨⟨isNext, -⟩, passed⟩
      have isNext : receipt.val.sequence = index + 1 := of_decide_eq_true isNext
      have isReceipt : ∀ p ∈ some receipt, p.val.sequence = ((index + 1 : ℕ) : ℤ) := by
        intro p isReceipt
        obtain rfl := Option.mem_some_iff.1 isReceipt
        exact isNext
      refine ⟨fun p isHead => Option.some.inj isHead ▸ isNext, ?_⟩
      rcases prior with _ | p
      · exact ((ih isReceipt).1 passed).2
      obtain ⟨linked, passed⟩ := check_bind_eq_ok.1 passed
      simp only [validate_cons_eq_ok, decide_eq_true_eq] at linked
      refine List.isChain_cons_cons.2 ⟨?_, ((ih isReceipt).1 passed).2⟩
      exact ⟨by rw [isNext, isPrior p rfl], linked.1, linked.2.1⟩
    · rintro ⟨isHead, isChain⟩
      have isNext := isHead receipt rfl
      have isReceipt : ∀ p ∈ some receipt, p.val.sequence = ((index + 1 : ℕ) : ℤ) := by
        intro p isReceipt
        obtain rfl := Option.mem_some_iff.1 isReceipt
        exact isNext
      refine ⟨⟨decide_eq_true isNext, rfl⟩, ?_⟩
      have following (isChain : (receipt :: rest).IsChain Follows) :
          validateLineageFrom (index + 1) (some receipt) rest = .ok () := by
        refine (ih isReceipt).2 ⟨?_, isChain⟩
        intro second isSecond
        have follows := (List.isChain_cons.1 isChain).1 second isSecond
        rw [follows.next, isNext]
        push_cast
        ring
      rcases prior with _ | p
      · exact following isChain
      obtain ⟨follows, isChain⟩ := List.isChain_cons_cons.1 isChain
      refine check_bind_eq_ok.2 ⟨?_, following isChain⟩
      simp only [validate_cons_eq_ok, decide_eq_true_eq]
      exact ⟨follows.linked, follows.sameDispatch, rfl⟩

/-- **A lineage passes** exactly if it is contiguous and linked. -/
theorem validateLineage_eq_ok {receipts : List (IndependentEffectObservationReceipt casefold)} :
    validateLineage receipts = .ok () ↔
      (∀ receipt ∈ receipts.head?, receipt.val.sequence = 1) ∧ receipts.IsChain Follows := by
  show validateLineageFrom 0 none receipts = .ok () ↔ _
  rw [validateLineageFrom_eq_ok fun _ isPrior => absurd isPrior (Option.not_mem_none _),
    Nat.cast_zero, zero_add]
  rfl

variable {identity : Digest}

/-- Later receipts of a chain have higher numbers. -/
theorem Chain.ascending {receipts : List (IndependentEffectObservationReceipt casefold)}
    (chain : Chain receipts identity) :
    receipts.Pairwise (·.val.sequence < ·.val.sequence) := by
  refine Sequences.pairwise_of_step (fun _ _ _ => lt_trans) ?_ chain.linked
  intro prior receipt follows
  rw [follows.next]
  exact Int.lt_succ _

/-! ## Projections -/

def receipts (lineage : List (Observed casefold)) :
    List (IndependentEffectObservationReceipt casefold) :=
  lineage.map Observed.receipt

variable {received : List (IndependentEffectObservationReceipt casefold)}
  {requestedAt : Option Zoned} {state : IndependentEffectState}

/-- **What is projected** passed the checks of a lineage. -/
theorem chain_of_projected (projected : projectState received identity requestedAt = .ok state) :
    Chain received identity := by
  unfold projectState at projected
  obtain ⟨-, projected⟩ := check_bind_eq_ok.1 projected
  cases received with
  | nil => exact ⟨fun _ isHead => absurd isHead (Option.not_mem_none _),
      fun _ isHead => absurd isHead (Option.not_mem_none _), List.IsChain.nil⟩
  | cons first rest =>
    rw [List.getLast?_cons] at projected
    obtain ⟨passed, projected⟩ := check_bind_eq_ok.1 projected
    obtain ⟨binds, -⟩ := check_bind_eq_ok.1 projected
    obtain ⟨numbered, linked⟩ := validateLineage_eq_ok.1 passed
    simp only [validate_cons_eq_ok, decide_eq_true_eq] at binds
    refine ⟨numbered, ?_, linked⟩
    intro receipt isHead
    obtain rfl := Option.some.inj isHead
    exact binds.1

variable {latest : IndependentEffectObservationReceipt casefold}

theorem projectState_of_chain (chain : Chain received identity)
    (isLatest : received.getLast? = some latest) :
    projectState received identity requestedAt =
      projectChain received latest identity requestedAt := by
  rcases received with _ | ⟨first, rest⟩
  · cases isLatest
  have binds := chain.dispatch first rfl
  have formed : wellFormedDigest identity = true := by
    have checked := first.val.binding.2
    simp only [checkBinding, validate_cons_eq_ok, effectDigest] at checked
    rw [← binds]
    exact checked.2.2.2.2.2.2.2.1
  have passed : validateLineage (first :: rest) = .ok () :=
    validateLineage_eq_ok.2 ⟨chain.first, chain.linked⟩
  unfold projectState
  simp only [isLatest, effectDigest, formed, passed, binds, decide_true, validate]
  rfl

/-- A later observation contradicts the first that verified the effect. -/
def Contradicted (lineage : List (Observed casefold)) : Prop :=
  ∃ before verified between failed after,
    lineage = before ++ verified :: (between ++ failed :: after) ∧
      (∀ o ∈ before, ¬ o.established .verified) ∧ verified.established .verified ∧
      failed.established .failed

theorem find?_receipts (lineage : List (Observed casefold)) :
    (receipts lineage).find? (·.val.outcome = .verified) =
      (lineage.find? fun o => o.receipt.val.outcome = .verified).map Observed.receipt :=
  List.find?_map ..

variable {lineage : List (Observed casefold)}

/-- The first receipt that verified the effect. -/
theorem find?_verified {verified : Observed casefold} :
    (lineage.find? fun o => o.receipt.val.outcome = .verified) = some verified ↔
      verified.established .verified ∧ ∃ before after, lineage = before ++ verified :: after ∧
        ∀ o ∈ before, ¬ o.established .verified := by
  rw [List.find?_eq_some_iff_append]
  simp only [decide_eq_true_eq, Bool.not_eq_true', decide_eq_false_iff_not,
    Observed.outcome_iff _ (.inl rfl)]

/-- In a chain, a later failure is found by its number. -/
theorem any_contradiction {verified : Observed casefold} (chain : Chain (receipts lineage) identity)
    (found : (lineage.find? fun o => o.receipt.val.outcome = .verified) = some verified) :
    ((receipts lineage).any fun r => verified.receipt.val.sequence < r.val.sequence &&
      r.val.outcome = .failed) = true ↔ Contradicted lineage := by
  have ascending := chain.ascending
  rw [receipts, List.pairwise_map] at ascending
  obtain ⟨isVerified, before, after, split, unverified⟩ := find?_verified.1 found
  unfold receipts
  simp only [List.any_map, List.any_eq_true, Function.comp_apply, Bool.and_eq_true,
    decide_eq_true_eq]
  constructor
  · rintro ⟨failed, isFailed, later, failure⟩
    have established := (failed.outcome_iff (.inr rfl)).1 failure
    rw [split] at isFailed ascending
    obtain ⟨-, ascendingAfter, below⟩ := List.pairwise_append.1 ascending
    rcases List.mem_append.1 isFailed with isBefore | isFailed
    · exact absurd later (not_lt.2 (below failed isBefore verified List.mem_cons_self).le)
    rcases List.mem_cons.1 isFailed with rfl | isAfter
    · exact absurd later (lt_irrefl _)
    · obtain ⟨between, rest, rfl⟩ := List.append_of_mem isAfter
      exact ⟨before, verified, between, failed, rest, split, unverified, isVerified, established⟩
  · rintro ⟨before', first, between, failed, rest, split', unverified', isFirst, established⟩
    have same : verified = first := by
      have foundFirst := find?_verified.2 ⟨isFirst, before', _, split', unverified'⟩
      exact Option.some.inj (found.symm.trans foundFirst)
    subst same
    have isFailed : failed ∈ between ++ failed :: rest :=
      List.mem_append_right _ List.mem_cons_self
    refine ⟨failed, ?_, ?_, (failed.outcome_iff (.inr rfl)).2 established⟩
    · rw [split']
      exact List.mem_append_right _ (List.mem_cons_of_mem _ isFailed)
    · rw [split'] at ascending
      have ascendingRest := (List.pairwise_append.1 ascending).2.1
      exact (List.pairwise_cons.1 ascendingRest).1 failed isFailed

theorem construct_verifiedState (identity : Digest)
    (latest : IndependentEffectObservationReceipt casefold) {count : ℕ} (observed : count ≠ 0) :
    ∃ state, construct checkEffectState (verifiedState identity latest count) = .ok state ∧
      state.val.effectVerified = true := by
  have passed : checkEffectState (verifiedState identity latest count) = .ok () := by
    simp [checkEffectState, verifiedState, effectCheck, observed]
  exact ⟨⟨_, passed⟩, construct_eq_ok.2 rfl, rfl⟩

/-- **The projection of a chain** in which some observation verified the effect. -/
theorem projectChain_of_verified (requestedAt : Option Zoned)
    (chain : Chain (receipts lineage) identity) (isVerified : ∃ o ∈ lineage, o.established .verified) :
    (Contradicted lineage → projectChain (receipts lineage) latest identity requestedAt =
      .error (.conflict "a retained observation contradicts an already-verified effect")) ∧
    (¬ Contradicted lineage → ∃ state,
      projectChain (receipts lineage) latest identity requestedAt = .ok state ∧
        state.val.effectVerified = true) := by
  obtain ⟨o, isObserved, established⟩ := isVerified
  cases found : lineage.find? fun o => decide (o.receipt.val.outcome = .verified) with
  | none =>
    have missed := List.find?_eq_none.1 found o isObserved
    rw [decide_eq_true_iff, o.outcome_iff (.inl rfl)] at missed
    exact absurd established missed
  | some verified =>
    have contradicts := any_contradiction chain found
    unfold projectChain
    rw [find?_receipts, found]
    simp only [Option.map_some]
    constructor
    · intro contradicted
      rw [if_pos (contradicts.2 contradicted)]
    · intro uncontradicted
      rw [if_neg fun any => uncontradicted (contradicts.1 any)]
      apply construct_verifiedState
      rw [Ne, List.length_eq_zero_iff, receipts, List.map_eq_nil_iff]
      exact List.ne_nil_of_mem isObserved

/-- **The projection of a chain** in which no observation verified the effect. -/
theorem projectChain_of_unverified (unverified : ∀ o ∈ lineage, ¬ o.established .verified)
    (projected : projectChain (receipts lineage) latest identity requestedAt = .ok state) :
    state.val.effectVerified = false ∧
      (state.val.recoveryRequest.isSome = true → latest.val.outcome = .failed) := by
  have found : (lineage.find? fun o => decide (o.receipt.val.outcome = .verified)) = none := by
    refine List.find?_eq_none.2 fun o isObserved => ?_
    rw [decide_eq_true_iff, o.outcome_iff (.inl rfl)]
    exact unverified o isObserved
  unfold projectChain at projected
  rw [find?_receipts, found] at projected
  simp only [Option.map_none] at projected
  split at projected
  · rename_i failed
    obtain ⟨request, -, projected⟩ := bind_eq_ok.1 projected
    rw [construct_eq_ok.1 projected]
    exact ⟨rfl, fun _ => failed⟩
  · rw [construct_eq_ok.1 projected]
    exact ⟨rfl, fun requested => by cases requested⟩

/-! ## The effect stays closed -/

/-- **What the ledger says** of one dispatch. -/
structure StaysClosed (lineage : List (Observed casefold)) (identity : Digest) : Prop where
  /-- The effect is verified exactly if an observer claimed so on evidence that carries it. -/
  verified : ∀ requestedAt state, projectState (receipts lineage) identity requestedAt = .ok state →
    (state.val.effectVerified = true ↔ ∃ o ∈ lineage, o.established .verified)
  /-- Once it is, it is after every extension of the chain, or a conflict is raised. -/
  closed : ∀ requestedAt state, projectState (receipts lineage) identity requestedAt = .ok state →
    state.val.effectVerified = true → ∀ more requestedAt',
      Chain (receipts (lineage ++ more)) identity →
        (∃ later, projectState (receipts (lineage ++ more)) identity requestedAt' = .ok later ∧
          later.val.effectVerified = true) ∨
        ∃ message, projectState (receipts (lineage ++ more)) identity requestedAt' =
          .error (.conflict message)
  /-- The conflict is raised exactly if a well-evidenced failure follows the first that verified. -/
  conflict : ∀ requestedAt state, projectState (receipts lineage) identity requestedAt = .ok state →
    state.val.effectVerified = true → ∀ more requestedAt',
      Chain (receipts (lineage ++ more)) identity →
        ((∃ message, projectState (receipts (lineage ++ more)) identity requestedAt' =
          .error (.conflict message)) ↔ Contradicted (lineage ++ more))
  /-- Recovery is requested only where the last observation is a well-evidenced failure and none
  verified the effect. -/
  recovery : ∀ requestedAt state, projectState (receipts lineage) identity requestedAt = .ok state →
    state.val.recoveryRequest.isSome = true →
      (∃ earlier last, lineage = earlier ++ [last] ∧ last.established .failed) ∧
        ∀ o ∈ lineage, ¬ o.established .verified
  /-- A lineage that is no chain of the dispatch is not projected. -/
  broken : ¬ Chain (receipts lineage) identity → ∀ requestedAt state,
    projectState (receipts lineage) identity requestedAt ≠ .ok state

theorem exists_latest {o : Observed casefold} (isObserved : o ∈ lineage) :
    ∃ earlier last, lineage = earlier ++ [last] ∧
      (receipts lineage).getLast? = some last.receipt := by
  obtain ⟨earlier, last, rfl⟩ := List.eq_nil_or_concat' lineage |>.resolve_left
    (List.ne_nil_of_mem isObserved)
  refine ⟨earlier, last, rfl, ?_⟩
  rw [receipts, List.map_append, List.map_singleton, List.getLast?_concat]

theorem missing_of_projected
    (projected : projectState (receipts ([] : List (Observed casefold))) identity requestedAt =
      .ok state) : state.val.effectVerified = false ∧ state.val.recoveryRequest = none := by
  obtain ⟨-, projected⟩ := check_bind_eq_ok.1 projected
  rw [construct_eq_ok.1 projected]
  exact ⟨rfl, rfl⟩

/-- A projected state is verified exactly if an observation verified the effect. -/
theorem verified_iff
        (projected : projectState (receipts lineage) identity requestedAt = .ok state) :
    state.val.effectVerified = true ↔ ∃ o ∈ lineage, o.established .verified := by
  have chain := chain_of_projected projected
  constructor
  · intro isVerified
    by_contra unverified
    push Not at unverified
    have notVerified : state.val.effectVerified = false := by
      rcases lineage with - | ⟨o, rest⟩
      · exact (missing_of_projected projected).1
      obtain ⟨-, last, -, isLatest⟩ := exists_latest (List.mem_cons_self (a := o) (l := rest))
      rw [projectState_of_chain chain isLatest] at projected
      exact (projectChain_of_unverified unverified projected).1
    rw [isVerified] at notVerified
    cases notVerified
  · rintro ⟨o, isObserved, established⟩
    obtain ⟨-, last, -, isLatest⟩ := exists_latest isObserved
    rw [projectState_of_chain chain isLatest] at projected
    obtain ⟨conflicts, closes⟩ := projectChain_of_verified requestedAt chain
      ⟨o, isObserved, established⟩
    by_cases contradicted : Contradicted lineage
    · rw [conflicts contradicted] at projected
      cases projected
    obtain ⟨state', projected', isVerified⟩ := closes contradicted
    rw [projected'] at projected
    obtain rfl := Except.ok.inj projected
    exact isVerified

end

end Fdai.Core.IndependentEffect
