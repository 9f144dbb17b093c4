import Fdai.Executor.ReservationLifecycle
import Fdai.Sequences.Chain

/-!
# Chains of reservation records

The history of one stable key: a first record, then records that the validator accepts one
after the other.

* `AcceptedChain` — such a history.
* `AtMostOnceDispatch` — what it is for: a second dispatch only after evidence that the sink
  did not accept the first one.
-/

namespace Fdai.Core

open Fdai.Sequences

/-- The validator accepts one record after another. -/
def Accepts (prior current : IdempotencyReservationRecord) : Prop :=
  validateTransition prior current = .ok ()

instance (prior current : IdempotencyReservationRecord) : Decidable (Accepts prior current) :=
  inferInstanceAs (Decidable (_ = _))

/-- A history of a key, from its first record on. -/
structure AcceptedChain (chain : List IdempotencyReservationRecord) : Prop where
  first : ∀ r, chain.head? = some r → r.revision = 1
  accepted : chain.IsChain Accepts

variable {prior current : IdempotencyReservationRecord}

/-- What identifies an operation across its attempts. -/
def IdempotencyReservationIdentity.operation (identity : IdempotencyReservationIdentity) :=
  (identity.idempotencyKey, identity.actionDigest, identity.executionPath,
    identity.executionFingerprint, identity.sourceRevision,
    identity.acquisitionReceipt.lockKey, identity.acquisitionReceipt.targetDigest)

theorem sameOperation_iff {left right : IdempotencyReservationIdentity} :
    sameOperation left right = true ↔ left.operation = right.operation := by
  simp [sameOperation, IdempotencyReservationIdentity.operation, and_assoc]

theorem step_cases (step : Accepts prior current) :
    (current.state = .reserved ∧ Reopens prior current) ∨
      (current.state ≠ .reserved ∧ prior.identity = current.identity) := by
  obtain ⟨-, -, reopened | ⟨kept, keeps⟩⟩ := validateTransition_iff.1 step
  · exact .inl reopened
  · exact .inr ⟨kept, keeps.identity⟩

theorem step_operation (step : Accepts prior current) :
    prior.identity.operation = current.identity.operation := by
  rcases step_cases step with ⟨-, reopens⟩ | ⟨-, same⟩
  · exact sameOperation_iff.1 reopens.operation
  · rw [same]

/-- A step never goes back in time. -/
theorem step_forward (step : Accepts prior current) :
    prior.stateChangedAt ≤ current.stateChangedAt :=
  (validateTransition_iff.1 step).2.1

/-- A step never lowers the attempt. -/
theorem step_attempt (step : Accepts prior current) :
    prior.identity.attempt ≤ current.identity.attempt := by
  rcases step_cases step with ⟨-, reopens⟩ | ⟨-, same⟩
  · exact reopens.attempt.le
  · rw [same]

/-- The dispatch of a record has begun, but the key is not in flight any more. -/
def IdempotencyReservationRecord.Dispatched (r : IdempotencyReservationRecord) : Prop :=
  r.state = .outcomeUnknown ∨ r.state = .terminal

/-- After a dispatch the key is closed, in the same attempt. -/
theorem step_of_inFlight (step : Accepts prior current) (inFlight : prior.state = .inFlight) :
    current.Dispatched ∧ current.identity = prior.identity := by
  have edge := (validateTransition_iff.1 step).1
  rw [inFlight] at edge
  have closed : current.Dispatched := by
    simpa [ReservationState.legalEdges, IdempotencyReservationRecord.Dispatched, or_comm] using edge
  refine ⟨closed, ?_⟩
  rcases step_cases step with ⟨reserved, -⟩ | ⟨-, same⟩
  · rcases closed with state | state <;> simp [reserved] at state
  · exact same.symm

/-- A closed key stays closed in the same attempt, unless the sink did not accept it: then
it may be reopened for a later attempt. -/
theorem step_of_dispatched (step : Accepts prior current) (dispatched : prior.Dispatched) :
    (current.Dispatched ∧ current.identity = prior.identity) ∨
      (prior.isNonAcceptance = true ∧ prior.identity.attempt < current.identity.attempt) := by
  have edge := (validateTransition_iff.1 step).1
  rcases dispatched with unknown | terminal
  · rw [unknown] at edge
    have closed : current.state = .terminal := by
      simpa [ReservationState.legalEdges] using edge
    rcases step_cases step with ⟨reserved, -⟩ | ⟨-, same⟩
    · simp [reserved] at closed
    · exact .inl ⟨.inr closed, same.symm⟩
  · rw [terminal] at edge
    have reserved : current.state = .reserved := by
      simpa [ReservationState.legalEdges] using edge
    rcases step_cases step with ⟨-, reopens⟩ | ⟨kept, -⟩
    · rcases reopens.evidence with abandoned | refused
      · simp [terminal] at abandoned
      · exact .inr ⟨refused, reopens.attempt⟩
    · exact absurd reserved kept

/-! ## Runs -/

theorem IdempotencyReservationRecord.Dispatched.not_inFlight
    {r : IdempotencyReservationRecord} (dispatched : r.Dispatched) : r.state ≠ .inFlight := by
  rcases dispatched with state | state <;> simp [state]

section Runs

variable {first second : IdempotencyReservationRecord}
  {between after : List IdempotencyReservationRecord}

/-- **Between two dispatches** the sink's refusal is on record. -/
theorem nonAcceptance_between (isChain : (first :: (between ++ second :: after)).IsChain Accepts)
    (dispatched : first.state = .inFlight) (again : second.state = .inFlight) :
    ∃ t ∈ between, t.isNonAcceptance = true := by
  rcases chain_until (D := IdempotencyReservationRecord.Dispatched)
      (Q := fun t => t.isNonAcceptance = true) isChain
      (fun next step => (step_of_inFlight step dispatched).1)
      (fun a b step closed accepted => by
        rcases step_of_dispatched step closed with ⟨closed', -⟩ | ⟨refused, -⟩
        · exact closed'
        · exact absurd refused accepted) with closed | refused
  · exact absurd again closed.not_inFlight
  · exact refused

/-- **Between two dispatches** the attempt grows. -/
theorem attempt_increases (isChain : (first :: (between ++ second :: after)).IsChain Accepts)
    (dispatched : first.state = .inFlight) (again : second.state = .inFlight) :
    first.identity.attempt < second.identity.attempt := by
  -- Along the way the first attempt is closed, or a later one has begun.
  rcases chain_until (D := fun r => (r.Dispatched ∧ r.identity.attempt = first.identity.attempt) ∨
        first.identity.attempt < r.identity.attempt)
      (Q := fun _ => False) isChain
      (fun next step => by
        obtain ⟨closed, same⟩ := step_of_inFlight step dispatched
        exact .inl ⟨closed, by rw [same]⟩)
      (fun a b step holds _ => by
        rcases holds with ⟨closed, same⟩ | later
        · rcases step_of_dispatched step closed with ⟨closed', identity⟩ | ⟨-, later⟩
          · exact .inl ⟨closed', by rw [identity, same]⟩
          · exact .inr (same ▸ later)
        · exact .inr (later.trans_le (step_attempt step))) with holds | ⟨_, _, never⟩
  · rcases holds with ⟨closed, -⟩ | later
    · exact absurd again closed.not_inFlight
    · exact later
  · exact never.elim

end Runs

theorem nonAcceptance_evidence {r : IdempotencyReservationRecord}
    (refused : r.isNonAcceptance = true) :
    r.state = .terminal ∧ r.evidenceKind = some .irrevocableNonAcceptance ∧
      r.evidenceDigest.isSome = true := by
  simp only [IdempotencyReservationRecord.isNonAcceptance, Bool.and_eq_true,
    decide_eq_true_eq] at refused
  have shape := r.sound.shape
  simp only [validateStateShape, refused.1, validate_cons_eq_ok, Bool.and_eq_true] at shape
  exact ⟨refused.1, refused.2, shape.1.1.2⟩

/-- At most one dispatch of a key goes unrefuted. -/
structure AtMostOnceDispatch (chain : List IdempotencyReservationRecord) : Prop where
  /-- Between two dispatches of different attempts the sink's refusal is on record. -/
  separated : ∀ before first between second after,
    chain = before ++ first :: (between ++ second :: after) →
    first.state = .inFlight → second.state = .inFlight →
    first.identity.attempt ≠ second.identity.attempt →
    ∃ t ∈ between, t.state = .terminal ∧ t.evidenceKind = some .irrevocableNonAcceptance ∧
      t.evidenceDigest.isSome = true
  /-- Every later dispatch is one of a later attempt. -/
  increasing : ∀ before first between second after,
    chain = before ++ first :: (between ++ second :: after) →
    first.state = .inFlight → second.state = .inFlight →
    first.identity.attempt < second.identity.attempt
  /-- The operation never changes. -/
  operation : chain.Pairwise fun a b => sameOperation a.identity b.identity = true
  /-- Time never goes back. -/
  forward : chain.Pairwise fun a b => a.stateChangedAt ≤ b.stateChangedAt

/-- **At most one dispatch per key.** In every accepted history a second dispatch comes
after evidence of irrevocable non-acceptance of the first. -/
theorem dispatch_at_most_once_per_key (chain : List IdempotencyReservationRecord)
    (isChain : AcceptedChain chain) : AtMostOnceDispatch chain := by
  refine ⟨?_, ?_, ?_, ?_⟩
  · rintro before first between second after rfl dispatched again -
    have tail := (List.isChain_append.1 isChain.accepted).2.1
    obtain ⟨t, isBetween, refused⟩ := nonAcceptance_between tail dispatched again
    exact ⟨t, isBetween, nonAcceptance_evidence refused⟩
  · rintro before first between second after rfl dispatched again
    exact attempt_increases (List.isChain_append.1 isChain.accepted).2.1 dispatched again
  · refine pairwise_of_step (fun a b c ab bc => ?_) (fun a b step => ?_) isChain.accepted
    · rw [sameOperation_iff] at *
      exact ab.trans bc
    · exact sameOperation_iff.2 (step_operation step)
  · exact pairwise_of_step (fun a b c => Int.le_trans) (fun a b => step_forward) isChain.accepted

namespace TestKey

/-- The sink refuses the first attempt for good. -/
def refused : IdempotencyReservationRecord :=
  { inFlight.successor .terminal 13 with
    dispatchStartedAt := some 12
    evidenceKind := some .irrevocableNonAcceptance
    evidenceDigest := some (.ofTexts ["status"])
    terminalOutcomeDigest := some (.ofTexts ["refused"])
    valid := by decide +kernel }

def reopened : IdempotencyReservationRecord :=
  { reservationFields (identity 2 14 Nat.two_pos) .reserved 4 15 30 15 with
    valid := by decide +kernel }

def inFlightAgain : IdempotencyReservationRecord :=
  { reopened.successor .inFlight 16 with dispatchStartedAt := some 16, valid := by decide +kernel }

end TestKey

open TestKey in
/-- A key that is dispatched a second time after the sink refused the first attempt. -/
theorem dispatch_again_after_refusal :
    AtMostOnceDispatch [reserved, inFlight, refused, reopened, inFlightAgain] := by
  refine dispatch_at_most_once_per_key _ ⟨?_, ?_⟩
  · rintro r ⟨⟩
    rfl
  · have dispatched : Accepts reserved inFlight := by decide +kernel
    have closed : Accepts inFlight refused := by decide +kernel
    have recovered : Accepts refused reopened := by decide +kernel
    have again : Accepts reopened inFlightAgain := by decide +kernel
    simp [dispatched, closed, recovered, again]

end Fdai.Core
