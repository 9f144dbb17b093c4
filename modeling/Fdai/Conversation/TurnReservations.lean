import Mathlib.Algebra.Field.Rat
import Mathlib.Algebra.Order.BigOperators.Group.List
import Mathlib.Algebra.Order.Ring.NNRat

/-!
# Reservations of the stages of a turn

A turn runs through the stages of a plan under one capacity. Before a stage sends a call, the
ledger charges the worst case of the call and asks that every mandatory stage ahead keeps its own.

* `StageCost` — the use of every resource that is reserved, an ordered monoid.
* `ReservationPlan` — the stages of a path, in the order they are dispatched.
* `TurnReservationLedger` — the capacity, the plan and every reservation.
* `reserve`, `reconcile`, `fail`, `cancel` — what is done to a ledger, and `Call`, one of these.

Seconds are exact rationals, and every reading of the clock is the caller's.
-/

namespace Fdai.Core.Conversation

/-! ## Costs -/

/-- `StageCost`. No dimension is negative. -/
@[ext] structure StageCost where
  calls : ℕ := 0
  inputBytes : ℕ := 0
  outputTokens : ℕ := 0
  wallSeconds : ℚ≥0 := 0
  costMicrousd : ℕ := 0
  readRows : ℕ := 0
  deriving DecidableEq

namespace StageCost

instance : Zero StageCost := ⟨{}⟩

instance : Add StageCost where
  add cost other :=
    { calls := cost.calls + other.calls
      inputBytes := cost.inputBytes + other.inputBytes
      outputTokens := cost.outputTokens + other.outputTokens
      wallSeconds := cost.wallSeconds + other.wallSeconds
      costMicrousd := cost.costMicrousd + other.costMicrousd
      readRows := cost.readRows + other.readRows }

def fits (cost capacity : StageCost) : Bool :=
  cost.calls ≤ capacity.calls && cost.inputBytes ≤ capacity.inputBytes &&
    cost.outputTokens ≤ capacity.outputTokens && cost.wallSeconds ≤ capacity.wallSeconds &&
    cost.costMicrousd ≤ capacity.costMicrousd && cost.readRows ≤ capacity.readRows

/-- A cost is at most another one when it fits. -/
instance : LE StageCost := ⟨fun cost capacity => cost.fits capacity = true⟩

def atLeast (value floor : StageCost) : StageCost where
  calls := max value.calls floor.calls
  inputBytes := max value.inputBytes floor.inputBytes
  outputTokens := max value.outputTokens floor.outputTokens
  wallSeconds := max value.wallSeconds floor.wallSeconds
  costMicrousd := max value.costMicrousd floor.costMicrousd
  readRows := max value.readRows floor.readRows

theorem fits_iff {cost capacity : StageCost} : cost.fits capacity = true ↔ cost ≤ capacity :=
  Iff.rfl

/-- To fit is to fit in every dimension. -/
theorem le_iff {cost capacity : StageCost} : cost ≤ capacity ↔
    cost.calls ≤ capacity.calls ∧ cost.inputBytes ≤ capacity.inputBytes ∧
      cost.outputTokens ≤ capacity.outputTokens ∧ cost.wallSeconds ≤ capacity.wallSeconds ∧
      cost.costMicrousd ≤ capacity.costMicrousd ∧ cost.readRows ≤ capacity.readRows := by
  rw [← fits_iff, fits]
  simp [and_assoc]

instance : AddCommMonoid StageCost where
  add_assoc _ _ _ := StageCost.ext (add_assoc ..) (add_assoc ..) (add_assoc ..) (add_assoc ..)
    (add_assoc ..) (add_assoc ..)
  zero_add _ := StageCost.ext (zero_add _) (zero_add _) (zero_add _) (zero_add _) (zero_add _)
    (zero_add _)
  add_zero _ := StageCost.ext (add_zero _) (add_zero _) (add_zero _) (add_zero _) (add_zero _)
    (add_zero _)
  add_comm _ _ := StageCost.ext (add_comm ..) (add_comm ..) (add_comm ..) (add_comm ..)
    (add_comm ..) (add_comm ..)
  nsmul := nsmulRec

instance : PartialOrder StageCost where
  le_refl cost := le_iff.2 ⟨le_rfl, le_rfl, le_rfl, le_rfl, le_rfl, le_rfl⟩
  le_trans cost middle capacity first second := by
    rw [le_iff] at first second ⊢
    exact ⟨first.1.trans second.1, first.2.1.trans second.2.1, first.2.2.1.trans second.2.2.1,
      first.2.2.2.1.trans second.2.2.2.1, first.2.2.2.2.1.trans second.2.2.2.2.1,
      first.2.2.2.2.2.trans second.2.2.2.2.2⟩
  le_antisymm cost other below above := by
    rw [le_iff] at below above
    exact StageCost.ext (below.1.antisymm above.1) (below.2.1.antisymm above.2.1)
      (below.2.2.1.antisymm above.2.2.1) (below.2.2.2.1.antisymm above.2.2.2.1)
      (below.2.2.2.2.1.antisymm above.2.2.2.2.1) (below.2.2.2.2.2.antisymm above.2.2.2.2.2)

instance : IsOrderedAddMonoid StageCost where
  add_le_add_left cost other below more := by
    rw [le_iff] at below ⊢
    obtain ⟨calls, bytes, tokens, seconds, money, rows⟩ := below
    exact ⟨Nat.add_le_add_right calls _, Nat.add_le_add_right bytes _,
      Nat.add_le_add_right tokens _, add_le_add_left seconds _, Nat.add_le_add_right money _,
      Nat.add_le_add_right rows _⟩

theorem zero_le (cost : StageCost) : 0 ≤ cost :=
  le_iff.2 ⟨Nat.zero_le _, Nat.zero_le _, Nat.zero_le _, cost.wallSeconds.2, Nat.zero_le _,
    Nat.zero_le _⟩

theorem atLeast_of_le {value floor : StageCost} (fits : value ≤ floor) :
    value.atLeast floor = floor := by
  obtain ⟨calls, bytes, tokens, seconds, money, rows⟩ := le_iff.1 fits
  exact StageCost.ext (max_eq_right calls) (max_eq_right bytes) (max_eq_right tokens)
    (max_eq_right seconds) (max_eq_right money) (max_eq_right rows)

end StageCost

/-- `_sum`. -/
def sumOf (costs : List StageCost) : StageCost := costs.foldl (· + ·) {}

theorem sumOf_eq (costs : List StageCost) : sumOf costs = costs.sum :=
  (List.sum_eq_foldl ..).symm

theorem sumOf_sublist {costs more : List StageCost} (fewer : costs.Sublist more) :
    sumOf costs ≤ sumOf more := by
  rw [sumOf_eq, sumOf_eq]
  exact fewer.sum_le_sum fun cost _ => cost.zero_le

inductive TurnStage where
  | preflight | judgment | form | blindReview | conceptChooser | directionReader
  | ambiguityReader | frame | plan | answerAuthor | answerRegeneration | entailmentReview
  | chunkSynthesis
  deriving DecidableEq

def TurnStage.value : TurnStage → String
  | .preflight => "preflight"
  | .judgment => "judgment"
  | .form => "form"
  | .blindReview => "blind_review"
  | .conceptChooser => "concept_chooser"
  | .directionReader => "direction_reader"
  | .ambiguityReader => "ambiguity_reader"
  | .frame => "frame"
  | .plan => "plan"
  | .answerAuthor => "answer_author"
  | .answerRegeneration => "answer_regeneration"
  | .entailmentReview => "entailment_review"
  | .chunkSynthesis => "chunk_synthesis"

/-- `PlannedStage`, with the checks of its constructor. -/
structure PlannedStage where
  stage : TurnStage
  worst : StageCost
  maxCalls : ℕ := 1
  conditional : Bool := false
  maxCalls_pos : 1 ≤ maxCalls := by decide
  maxCalls_le : maxCalls ≤ 64 := by decide
  worst_calls : worst.calls = 1 := by rfl

instance : DecidableEq PlannedStage :=
  (show Function.Injective fun s : PlannedStage => (s.stage, s.worst, s.maxCalls, s.conditional) from
    fun a b same => by cases a; cases b; simp_all).decidableEq

/-- `ReservationPlan`, with the check of its constructor. -/
structure ReservationPlan where
  stages : List PlannedStage
  nodup : (stages.map PlannedStage.stage).Nodup

namespace ReservationPlan

def planned (plan : ReservationPlan) (stage : TurnStage) : Option PlannedStage :=
  plan.stages.find? fun item => item.stage = stage

/-- `ahead`: the stages behind the given one, and none behind a stage that is not planned. -/
def ahead (plan : ReservationPlan) (stage : TurnStage) : List PlannedStage :=
  (plan.stages.dropWhile fun item => item.stage ≠ stage).tail

/-- The worst cases of the mandatory stages together. -/
def mandatoryWorst (plan : ReservationPlan) : StageCost :=
  sumOf ((plan.stages.filter fun item => !item.conditional).map PlannedStage.worst)

end ReservationPlan

/-! ## The ledger -/

/-- `status` of a reservation. -/
inductive ReservationStatus where
  | reserved | reconciled | overrun | failed
  deriving DecidableEq

structure StageReservation where
  stage : TurnStage
  charged : StageCost
  request : StageCost
  started : ℚ
  status : ReservationStatus := .reserved
  actual : Option StageCost := none
  endedAt : Option ℚ := none
  deriving DecidableEq

structure TurnReservationLedger where
  capacity : StageCost
  plan : ReservationPlan
  records : List StageReservation := []
  holds : List String := []
  cancelled : Bool := false

def budgetReservedExceeded : String := "budget_reserved_exceeded"

def turnCancelled : String := "turn_cancelled"

namespace TurnReservationLedger

def spent (ledger : TurnReservationLedger) : StageCost :=
  sumOf (ledger.records.map StageReservation.charged)

/-- `_hold`, and the raise. -/
def hold (ledger : TurnReservationLedger) (reason : String) :
    TurnReservationLedger × Except String StageReservation :=
  ({ ledger with holds := ledger.holds ++ [reason] }, .error reason)

/-- The mandatory stages ahead that have not started. -/
def unstartedAhead (ledger : TurnReservationLedger) (stage : TurnStage) : List PlannedStage :=
  (ledger.plan.ahead stage).filter fun item =>
    !item.conditional && item.stage ∉ ledger.records.map StageReservation.stage

/-- `reserve`: the ledger after it, and the reservation or the reason of the hold. -/
def reserve (ledger : TurnReservationLedger) (stage : TurnStage) (request : Option StageCost)
    (now : ℚ) : TurnReservationLedger × Except String StageReservation :=
  if ledger.cancelled then
    ledger.hold turnCancelled
  else
    match ledger.plan.planned stage with
    | none => ledger.hold (budgetReservedExceeded ++ ":" ++ stage.value ++ ":unplanned")
    | some planned =>
      if planned.maxCalls ≤ (ledger.records.filter fun item => item.stage = stage).length then
        ledger.hold (budgetReservedExceeded ++ ":" ++ stage.value ++ ":calls")
      else
        let sent := request.getD planned.worst
        let charge := sent.atLeast planned.worst
        -- Every mandatory stage ahead that has not started keeps its own worst case.
        let ahead := sumOf ((ledger.unstartedAhead stage).map PlannedStage.worst)
        if (ledger.spent + charge + ahead).fits ledger.capacity then
          let record : StageReservation := ⟨stage, charge, sent, now, .reserved, none, none⟩
          ({ ledger with records := ledger.records ++ [record] }, .ok record)
        else
          ledger.hold (budgetReservedExceeded ++ ":" ++ stage.value)

end TurnReservationLedger

namespace StageReservation

/-- What a call used, once it completed: its request, with the measured tokens and seconds. -/
def used (record : StageReservation) (outputTokens : ℕ) (now : ℚ) : StageCost :=
  { record.request with
    outputTokens := outputTokens
    wallSeconds := (now - record.started).toNNRat }

/-- `reconcile`, on the record. -/
def reconcile (record : StageReservation) (outputTokens : Option ℤ) (now : ℚ) :
    StageReservation × Except String Unit :=
  if record.status ≠ .reserved then
    (record, .error "a reservation is reconciled or failed once")
  else
    match outputTokens.getD record.request.outputTokens with
    | .ofNat tokens =>
      let actual := record.used tokens now
      if actual.fits record.charged then
        ({ record with
            charged := actual, status := .reconciled, actual := actual, endedAt := now }, .ok ())
      else
        ({ record with
            charged := actual.atLeast record.charged
            status := .overrun
            actual := actual
            endedAt := now }, .ok ())
    | .negSucc _ => ({ record with endedAt := now }, .error "stage cost MUST NOT be negative")

/-- `fail`, on the record. -/
def fail (record : StageReservation) (now : ℚ) : StageReservation :=
  if record.status = .reserved then { record with endedAt := now, status := .failed } else record

end StageReservation

/-- A call of the ledger. A reservation is named by its place among the records. -/
inductive Call where
  | reserve (stage : TurnStage) (request : Option StageCost) (now : ℚ)
  | reconcile (record : ℕ) (outputTokens : Option ℤ) (now : ℚ)
  | fail (record : ℕ) (now : ℚ)
  | cancel

namespace TurnReservationLedger

def step (ledger : TurnReservationLedger) : Call → TurnReservationLedger
  | .reserve stage request now => (ledger.reserve stage request now).1
  | .reconcile record outputTokens now =>
    { ledger with
      records := ledger.records.modify record fun record =>
        (record.reconcile outputTokens now).1 }
  | .fail record now =>
    { ledger with records := ledger.records.modify record fun record => record.fail now }
  | .cancel => { ledger with cancelled := true }

def run (ledger : TurnReservationLedger) (calls : List Call) : TurnReservationLedger :=
  calls.foldl step ledger

/-- A call, if it completes a reserved one, says that this one used at most its charge. -/
def CallWithin (ledger : TurnReservationLedger) : Call → Prop
  | .reconcile place outputTokens now => ∀ record, ledger.records[place]? = some record →
      record.status = .reserved → ∀ tokens : ℕ,
        outputTokens.getD record.request.outputTokens = tokens →
          (record.used tokens now).fits record.charged = true
  | _ => True

/-- No completed call used more than its charge. -/
def Within (ledger : TurnReservationLedger) : List Call → Prop
  | [] => True
  | call :: calls => ledger.CallWithin call ∧ (ledger.step call).Within calls

end TurnReservationLedger

end Fdai.Core.Conversation
