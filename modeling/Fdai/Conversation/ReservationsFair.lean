import Mathlib.Data.List.Nodup
import Fdai.Conversation.TurnReservations

/-!
# No stage starves a mandatory one

The stages that no started stage has passed are the *frontier* of a ledger. What is charged and the
worst cases of the mandatory stages at the frontier together stay within the capacity: a reservation
moves the frontier behind its stage and is only made if what is left of it still fits, and every
other call charges less or the same.

* `Funded` — the invariant; `funded_step` is the step lemma.
* `reservations_fair` — the total stays within the capacity, and a mandatory stage that comes in the
  order of the plan is never held for budget.
-/

namespace Fdai.Core.Conversation

namespace ReservationPlan

variable {plan : ReservationPlan} {item planned : PlannedStage} {stage : TurnStage}
  {before after : List PlannedStage}

theorem ahead_eq (split : plan.stages = before ++ item :: after) :
    plan.ahead item.stage = after := by
  have skipped : ∀ other ∈ before, decide (other.stage ≠ item.stage) = true := by
    intro other inside
    have names := plan.nodup
    rw [split, List.map_append, List.nodup_append] at names
    rw [decide_eq_true_eq]
    exact names.2.2 _ (List.mem_map_of_mem inside) _ (by simp)
  unfold ahead
  rw [split, List.dropWhile_append_of_pos skipped, List.dropWhile_cons_of_neg (by simp)]
  rfl

theorem stage_of_planned (isPlanned : plan.planned stage = some planned) :
    planned.stage = stage := by
  simpa using List.find?_some isPlanned

theorem split_of_mem (inside : item ∈ plan.stages) :
    ∃ before, plan.stages = before ++ item :: plan.ahead item.stage := by
  obtain ⟨before, after, split⟩ := List.append_of_mem inside
  exact ⟨before, by rw [ahead_eq split, split]⟩

theorem planned_of_mem (inside : item ∈ plan.stages) : plan.planned item.stage = some item := by
  cases isPlanned : plan.planned item.stage with
  | none =>
    have absent := List.find?_eq_none.1 isPlanned item inside
    simp at absent
  | some other =>
    have same := stage_of_planned isPlanned
    rw [List.inj_on_of_nodup_map plan.nodup (List.mem_of_find?_eq_some isPlanned) inside same]

theorem mem_of_ahead (isAhead : item ∈ plan.ahead stage) : item ∈ plan.stages :=
  (List.dropWhile_suffix _).subset (List.mem_of_mem_tail isAhead)

theorem not_ahead (split : plan.stages = before ++ planned :: plan.ahead planned.stage)
    (inside : item ∈ before ++ [planned]) : item ∉ plan.ahead planned.stage := by
  intro isAhead
  have names := plan.nodup
  rw [split, List.append_cons, List.map_append, List.nodup_append] at names
  exact names.2.2 _ (List.mem_map_of_mem inside) _ (List.mem_map_of_mem isAhead) rfl

theorem not_ahead_self : item ∉ plan.ahead item.stage := by
  intro isAhead
  obtain ⟨before, split⟩ := split_of_mem (mem_of_ahead isAhead)
  exact not_ahead split (by simp) isAhead

/-- **To be ahead is transitive.** -/
theorem ahead_trans (first : planned ∈ plan.ahead stage)
    (second : item ∈ plan.ahead planned.stage) : item ∈ plan.ahead stage := by
  obtain ⟨front, rest, split⟩ := List.append_of_mem first
  have isSuffix : plan.ahead stage <:+ plan.stages :=
    (List.tail_suffix _).trans (List.dropWhile_suffix _)
  obtain ⟨start, whole⟩ := isSuffix
  have place : plan.stages = (start ++ front) ++ planned :: rest := by
    rw [← whole, split, List.append_assoc]
  rw [ahead_eq place] at second
  rw [split]
  exact List.mem_append_right _ (List.mem_cons_of_mem _ second)

end ReservationPlan

namespace TurnReservationLedger

open ReservationPlan

variable {ledger : TurnReservationLedger} {planned : PlannedStage} {stage : TurnStage}
  {request : Option StageCost} {now : ℚ} {record : StageReservation}

def started (ledger : TurnReservationLedger) : List TurnStage :=
  ledger.records.map StageReservation.stage

/-- The mandatory stages ahead of every stage that has started. -/
def frontier (ledger : TurnReservationLedger) : List PlannedStage :=
  ledger.plan.stages.filter fun item =>
    !item.conditional && ledger.started.all fun stage => item ∈ ledger.plan.ahead stage

/-- The worst cases of the stages at the frontier. -/
def owed (ledger : TurnReservationLedger) : StageCost :=
  sumOf (ledger.frontier.map PlannedStage.worst)

theorem mem_frontier : planned ∈ ledger.frontier ↔ planned ∈ ledger.plan.stages ∧
    planned.conditional = false ∧ ∀ stage ∈ ledger.started, planned ∈ ledger.plan.ahead stage := by
  simp [frontier]

theorem frontier_behind (inside : planned ∈ ledger.plan.stages) :
    (ledger.frontier.filter fun item => item ∈ ledger.plan.ahead planned.stage).Sublist
      (ledger.unstartedAhead planned.stage) := by
  obtain ⟨before, split⟩ := split_of_mem inside
  have dropped : (before ++ [planned]).filter (fun item =>
      decide (item ∈ ledger.plan.ahead planned.stage) && (!item.conditional &&
        ledger.started.all fun stage => decide (item ∈ ledger.plan.ahead stage))) = [] := by
    rw [List.filter_eq_nil_iff]
    intro item isBefore
    simp [not_ahead split isBefore]
  unfold frontier
  rw [List.filter_filter]
  conv => enter [1, 2]; rw [split, List.append_cons]
  rw [List.filter_append, dropped, List.nil_append]
  refine List.monotone_filter_right _ ?_
  intro item atFrontier
  simp only [Bool.and_eq_true, List.all_eq_true, decide_eq_true_eq, Bool.not_eq_true'] at atFrontier
  obtain ⟨-, mandatory, passed⟩ := atFrontier
  have unstarted : item.stage ∉ ledger.started := fun isStarted =>
    not_ahead_self (passed item.stage isStarted)
  simp only [Bool.and_eq_true, Bool.not_eq_true', decide_eq_true_eq]
  exact ⟨mandatory, unstarted⟩

/-- A mandatory stage at the frontier, and what is unstarted ahead of it, is at the frontier. -/
theorem cons_unstartedAhead (atFrontier : planned ∈ ledger.frontier) :
    (planned :: ledger.unstartedAhead planned.stage).Sublist ledger.frontier := by
  obtain ⟨inside, mandatory, passed⟩ := mem_frontier.1 atFrontier
  obtain ⟨before, split⟩ := split_of_mem inside
  have kept : planned :: ledger.unstartedAhead planned.stage =
      (planned :: ledger.plan.ahead planned.stage).filter fun item => !item.conditional &&
        ledger.started.all fun stage => decide (item ∈ ledger.plan.ahead stage) := by
    rw [List.filter_cons_of_pos (by simpa [mandatory] using passed)]
    congr 1
    refine List.filter_congr ?_
    intro item isAhead
    have unstarted : item.stage ∉ ledger.records.map StageReservation.stage := fun isStarted =>
      not_ahead_self (ahead_trans (passed item.stage isStarted) isAhead)
    have ahead : ∀ stage ∈ ledger.started, item ∈ ledger.plan.ahead stage :=
      fun stage isStarted => ahead_trans (passed stage isStarted) isAhead
    have all : (ledger.started.all fun stage => decide (item ∈ ledger.plan.ahead stage)) = true := by
      simpa using ahead
    simp [unstarted, all]
  rw [kept]
  unfold frontier
  refine List.Sublist.filter _ ?_
  conv => rhs; rw [split]
  exact List.sublist_append_right ..

/-! ## Steps -/

/-- A reservation that was made. -/
structure Reserved (ledger : TurnReservationLedger) (stage : TurnStage)
    (request : Option StageCost) (now : ℚ) (planned : PlannedStage)
    (record : StageReservation) : Prop where
  isPlanned : ledger.plan.planned stage = some planned
  record_eq : record = ⟨stage, (request.getD planned.worst).atLeast planned.worst,
    request.getD planned.worst, now, .reserved, none, none⟩
  fits : ledger.spent + record.charged +
    sumOf ((ledger.unstartedAhead stage).map PlannedStage.worst) ≤ ledger.capacity

/-- **A stage is held, or reserved.** -/
theorem reserve_cases (ledger : TurnReservationLedger) (stage : TurnStage)
    (request : Option StageCost) (now : ℚ) :
    (∃ reason, ledger.reserve stage request now = ledger.hold reason) ∨
      ∃ planned record, Reserved ledger stage request now planned record ∧
        ledger.reserve stage request now =
          ({ ledger with records := ledger.records ++ [record] }, .ok record) := by
  unfold reserve
  by_cases cancelled : ledger.cancelled = true
  · rw [if_pos cancelled]
    exact .inl ⟨_, rfl⟩
  rw [if_neg cancelled]
  rcases isPlanned : ledger.plan.planned stage with _ | planned
  · exact .inl ⟨_, rfl⟩
  dsimp only
  split
  · exact .inl ⟨_, rfl⟩
  split
  · rename_i fits
    exact .inr ⟨planned, _, ⟨isPlanned, rfl, fits⟩, rfl⟩
  · exact .inl ⟨_, rfl⟩

theorem spent_append (ledger : TurnReservationLedger) (record : StageReservation) :
    ({ ledger with records := ledger.records ++ [record] } : TurnReservationLedger).spent =
      ledger.spent + record.charged := by
  simp [spent, sumOf_eq]

theorem frontier_append (ledger : TurnReservationLedger) (record : StageReservation) :
    ({ ledger with records := ledger.records ++ [record] } : TurnReservationLedger).frontier =
      ledger.frontier.filter fun item => item ∈ ledger.plan.ahead record.stage := by
  unfold frontier started
  rw [List.filter_filter]
  refine List.filter_congr ?_
  intro item _
  rw [List.map_append, List.all_append]
  simp only [List.map_cons, List.map_nil, List.all_cons, List.all_nil, Bool.and_true]
  rw [← Bool.and_assoc, Bool.and_comm]

variable {change : StageReservation → StageReservation}

/-- Charges that do not grow. -/
theorem sum_modify_le (records : List StageReservation) (place : ℕ)
    (less : ∀ record, records[place]? = some record → (change record).charged ≤ record.charged) :
    sumOf ((records.modify place change).map StageReservation.charged) ≤
      sumOf (records.map StageReservation.charged) := by
  rw [sumOf_eq, sumOf_eq]
  induction records generalizing place with
  | nil => simp
  | cons record records ih =>
    cases place with
    | zero =>
      rw [List.modify_zero_cons, List.map_cons, List.sum_cons, List.map_cons, List.sum_cons]
      exact add_le_add_left (less record rfl) _
    | succ place =>
      rw [List.modify_succ_cons, List.map_cons, List.sum_cons, List.map_cons, List.sum_cons]
      exact add_le_add_right (ih place less) _

theorem stages_modify
    (same : ∀ record, (change record).stage = record.stage) (records : List StageReservation)
    (place : ℕ) : (records.modify place change).map StageReservation.stage =
      records.map StageReservation.stage := by
  induction records generalizing place with
  | nil => simp
  | cons record records ih =>
    cases place with
    | zero => simp [same]
    | succ place => simp [ih]

theorem reconcile_stage (record : StageReservation) (outputTokens : Option ℤ) (now : ℚ) :
    (record.reconcile outputTokens now).1.stage = record.stage := by
  unfold StageReservation.reconcile
  split
  · rfl
  split
  · dsimp only
    split <;> rfl
  · rfl

theorem fail_stage (record : StageReservation) (now : ℚ) :
    (record.fail now).stage = record.stage := by
  unfold StageReservation.fail
  split <;> rfl

theorem fail_charged (record : StageReservation) (now : ℚ) :
    (record.fail now).charged = record.charged := by
  unfold StageReservation.fail
  split <;> rfl

theorem reconcile_charged {outputTokens : Option ℤ}
    (within : record.status = .reserved → ∀ tokens : ℕ,
      outputTokens.getD record.request.outputTokens = tokens →
        (record.used tokens now).fits record.charged = true) :
    (record.reconcile outputTokens now).1.charged ≤ record.charged := by
  unfold StageReservation.reconcile
  by_cases isReserved : record.status = .reserved
  · rw [if_neg (not_not_intro isReserved)]
    cases tokens : outputTokens.getD record.request.outputTokens with
    | ofNat tokens' =>
      have fits := within isReserved tokens' tokens
      dsimp only
      rw [if_pos fits]
      exact fits
    | negSucc _ => exact le_rfl
  · rw [if_pos isReserved]

theorem modify_keeps {place : ℕ} (same : ∀ record, (change record).stage = record.stage)
    (less : ∀ record, ledger.records[place]? = some record →
      (change record).charged ≤ record.charged) :
    ({ ledger with records := ledger.records.modify place change } :
        TurnReservationLedger).spent ≤ ledger.spent ∧
      ({ ledger with records := ledger.records.modify place change } :
        TurnReservationLedger).owed = ledger.owed := by
  refine ⟨sum_modify_le _ _ less, ?_⟩
  unfold owed frontier started
  dsimp only
  rw [stages_modify same]

variable {call : Call}

/-- **What a call does to the totals.** A reservation fits with what stays owed; every other call
charges no more, and owes the same. -/
theorem step_totals (within : ledger.CallWithin call) :
    (ledger.step call).capacity = ledger.capacity ∧ (ledger.step call).plan = ledger.plan ∧
      ((ledger.step call).spent + (ledger.step call).owed ≤ ledger.capacity ∨
        (ledger.step call).spent ≤ ledger.spent ∧ (ledger.step call).owed = ledger.owed) := by
  cases call with
  | reserve stage request now =>
    unfold step
    dsimp only
    rcases reserve_cases ledger stage request now with
      ⟨reason, isHeld⟩ | ⟨planned, record, reserved, isReserved⟩
    · rw [isHeld]
      exact ⟨rfl, rfl, .inr ⟨le_rfl, rfl⟩⟩
    rw [isReserved]
    refine ⟨rfl, rfl, .inl ?_⟩
    have isStage := stage_of_planned reserved.isPlanned
    have inside : planned ∈ ledger.plan.stages := List.mem_of_find?_eq_some reserved.isPlanned
    have recordStage : record.stage = stage := by rw [reserved.record_eq]
    have less := frontier_behind inside
    rw [isStage] at less
    rw [spent_append, owed, frontier_append, recordStage]
    exact (add_le_add_right (sumOf_sublist (less.map _)) _).trans reserved.fits
  | reconcile place outputTokens now =>
    refine ⟨rfl, rfl, .inr ?_⟩
    refine modify_keeps (fun record => reconcile_stage record outputTokens now) ?_
    intro record isRecord
    exact reconcile_charged fun isReserved => within record isRecord isReserved
  | fail place now =>
    refine ⟨rfl, rfl, .inr ?_⟩
    exact modify_keeps (fun record => fail_stage record now)
      fun record _ => (fail_charged record now).le
  | cancel => exact ⟨rfl, rfl, .inr ⟨le_rfl, rfl⟩⟩

/-! ## Runs -/

/-- **What is charged fits the capacity, with what is owed.** -/
def Funded (ledger : TurnReservationLedger) : Prop :=
  ledger.spent + ledger.owed ≤ ledger.capacity

/-- A call keeps the charges within the capacity. -/
theorem spent_step (within : ledger.CallWithin call) (spent : ledger.spent ≤ ledger.capacity) :
    (ledger.step call).spent ≤ (ledger.step call).capacity := by
  obtain ⟨capacity, -, fits | ⟨less, -⟩⟩ := step_totals within
  · rw [capacity]
    exact (le_add_of_nonneg_right (StageCost.zero_le _)).trans fits
  · rw [capacity]
    exact less.trans spent

/-- **A call keeps the ledger funded.** -/
theorem funded_step (within : ledger.CallWithin call) (funded : ledger.Funded) :
    (ledger.step call).Funded := by
  unfold Funded
  obtain ⟨capacity, -, fits | ⟨less, same⟩⟩ := step_totals within
  · rw [capacity]
    exact fits
  · rw [capacity, same]
    exact (add_le_add_left less _).trans funded

theorem run_keeps {kept : TurnReservationLedger → Prop}
    (step : ∀ {ledger : TurnReservationLedger} {call : Call}, ledger.CallWithin call →
      kept ledger → kept (ledger.step call))
    {calls : List Call} (within : ledger.Within calls) (holds : kept ledger) :
    kept (ledger.run calls) := by
  induction calls generalizing ledger with
  | nil => exact holds
  | cons call calls ih => exact ih within.2 (step within.1 holds)

def start (capacity : StageCost) (plan : ReservationPlan) : TurnReservationLedger :=
  { capacity := capacity, plan := plan }

theorem run_start {capacity : StageCost} {plan : ReservationPlan} {calls : List Call}
    (within : (start capacity plan).Within calls) :
    ((start capacity plan).run calls).capacity = capacity ∧
      ((start capacity plan).run calls).plan = plan := by
  refine @run_keeps _ (fun ledger => ledger.capacity = capacity ∧ ledger.plan = plan) ?_ _ within
    ⟨rfl, rfl⟩
  intro ledger call within kept
  obtain ⟨sameCapacity, samePlan, -⟩ := step_totals within
  exact ⟨sameCapacity.trans kept.1, samePlan.trans kept.2⟩

theorem funded_start {capacity : StageCost} {plan : ReservationPlan}
    (fits : plan.mandatoryWorst.fits capacity = true) : (start capacity plan).Funded := by
  have atStart : (start capacity plan).owed = plan.mandatoryWorst := by
    simp [owed, frontier, started, start, mandatoryWorst]
  unfold Funded
  rw [atStart]
  exact (zero_add _).trans_le fits

/-- **A funded ledger reserves the next mandatory stage.** -/
theorem reserve_next (funded : ledger.Funded) (open_ : ledger.cancelled = false)
    (inside : planned ∈ ledger.plan.stages) (mandatory : planned.conditional = false)
    (inOrder : ∀ record ∈ ledger.records, planned ∈ ledger.plan.ahead record.stage)
    (small : (request.getD planned.worst).fits planned.worst = true) :
    (ledger.reserve planned.stage request now).2 =
      .ok ⟨planned.stage, planned.worst, request.getD planned.worst, now, .reserved, none, none⟩ := by
  have passed : ∀ stage ∈ ledger.started, planned ∈ ledger.plan.ahead stage := by
    intro stage isStarted
    obtain ⟨record, isRecord, rfl⟩ := List.mem_map.1 isStarted
    exact inOrder record isRecord
  have first : ledger.records.filter (fun item => decide (item.stage = planned.stage)) = [] := by
    rw [List.filter_eq_nil_iff]
    intro record isRecord same
    have isAhead := inOrder record isRecord
    rw [of_decide_eq_true same] at isAhead
    exact not_ahead_self isAhead
  have charge := StageCost.atLeast_of_le small
  have reserved := cons_unstartedAhead (mem_frontier.2 ⟨inside, mandatory, passed⟩)
  have enough : (ledger.spent + planned.worst +
      sumOf ((ledger.unstartedAhead planned.stage).map PlannedStage.worst)).fits
        ledger.capacity = true := by
    have sums := sumOf_sublist (reserved.map PlannedStage.worst)
    rw [sumOf_eq, List.map_cons, List.sum_cons, ← sumOf_eq] at sums
    calc
      _ = ledger.spent + (planned.worst +
          sumOf ((ledger.unstartedAhead planned.stage).map PlannedStage.worst)) := add_assoc ..
      _ ≤ ledger.spent + ledger.owed := add_le_add_right sums _
      _ ≤ ledger.capacity := funded
  unfold reserve
  rw [open_, planned_of_mem inside]
  dsimp only
  have notSpent : ¬ planned.maxCalls ≤ ([] : List StageReservation).length :=
    Nat.not_le.2 planned.maxCalls_pos
  rw [first, if_neg Bool.false_ne_true, if_neg notSpent, charge, if_pos enough]

theorem reserve_cancelled (cancelled : ledger.cancelled = true) :
    (ledger.reserve stage request now).2 = .error turnCancelled := by
  unfold reserve
  rw [if_pos cancelled]
  rfl

/-- **Reservations are fair.** As long as no completed call used more than its charge, the charges
together fit the capacity. If the worst cases of the mandatory stages do too, then a mandatory stage
that is ahead of every stage that has started is reserved, unless the turn was cancelled. -/
theorem reservations_fair (capacity : StageCost) (plan : ReservationPlan) (calls : List Call)
    (within : (start capacity plan).Within calls) :
    ((start capacity plan).run calls).spent.fits capacity = true ∧
      (plan.mandatoryWorst.fits capacity = true → ∀ planned ∈ plan.stages,
        planned.conditional = false →
        (∀ record ∈ ((start capacity plan).run calls).records, planned ∈ plan.ahead record.stage) →
        ∀ (request : Option StageCost) (now : ℚ),
          (request.getD planned.worst).fits planned.worst = true →
          (((start capacity plan).run calls).reserve planned.stage request now).2 =
            if ((start capacity plan).run calls).cancelled then .error turnCancelled
            else .ok ⟨planned.stage, planned.worst, request.getD planned.worst, now, .reserved,
              none, none⟩) := by
  obtain ⟨sameCapacity, samePlan⟩ := run_start within
  constructor
  · have spent := run_keeps (fun within kept => spent_step within kept) within
      (StageCost.zero_le capacity)
    rw [sameCapacity] at spent
    exact spent
  · intro fits planned inside mandatory inOrder request now small
    have funded := run_keeps (fun within kept => funded_step within kept) within (funded_start fits)
    cases isOpen : ((start capacity plan).run calls).cancelled with
    | true =>
      rw [if_pos rfl]
      exact reserve_cancelled isOpen
    | false =>
      rw [if_neg Bool.false_ne_true]
      refine reserve_next funded isOpen (by rwa [samePlan]) mandatory ?_ small
      rw [samePlan]
      exact inOrder

/-- A plan with two mandatory stages and a conditional one between them. -/
def threeStages : ReservationPlan where
  stages := [⟨.judgment, { calls := 1, wallSeconds := 20 }, 2, false, by decide, by decide, rfl⟩,
    ⟨.frame, { calls := 1, wallSeconds := 20 }, 1, true, by decide, by decide, rfl⟩,
    ⟨.plan, { calls := 1, wallSeconds := 20 }, 1, false, by decide, by decide, rfl⟩]
  nodup := by decide

/-- A stage, its retry and a conditional stage that is held leave room for the last one. -/
theorem reservations_fair_three :
    let capacity : StageCost := { calls := 3, wallSeconds := 50 }
    let calls : List Call := [.reserve .judgment none 0, .reconcile 0 (some 0) 5,
      .reserve .judgment none 5, .fail 1 7, .reserve .frame none 7]
    ((start capacity threeStages).run calls).spent.fits capacity = true ∧
      (((start capacity threeStages).run calls).reserve .plan none 9).2 =
        .ok ⟨.plan, { calls := 1, wallSeconds := 20 }, { calls := 1, wallSeconds := 20 }, 9,
          .reserved, none, none⟩ := by
  intro capacity calls
  have within : (start capacity threeStages).Within calls := by
    refine ⟨True.intro, ?_, True.intro, True.intro, True.intro, True.intro⟩
    intro record isRecord _ tokens isTokens
    obtain rfl : 0 = tokens := Int.ofNat.inj isTokens
    have first : ((start capacity threeStages).step (.reserve .judgment none 0)).records =
        [⟨.judgment, { calls := 1, wallSeconds := 20 }, { calls := 1, wallSeconds := 20 }, 0,
          .reserved, none, none⟩] := by decide +kernel
    rw [first] at isRecord
    obtain rfl := Option.some.inj isRecord
    decide +kernel
  obtain ⟨fits, next⟩ := reservations_fair capacity threeStages calls within
  refine ⟨fits, ?_⟩
  have reserved := next (by decide +kernel)
    ⟨.plan, { calls := 1, wallSeconds := 20 }, 1, false, by decide, by decide, rfl⟩
    (by decide +kernel) rfl (by decide +kernel) none 9 (by decide +kernel)
  rw [reserved]
  decide +kernel

end TurnReservationLedger

end Fdai.Core.Conversation
