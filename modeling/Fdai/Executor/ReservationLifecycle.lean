import Fdai.Executor.IdempotencyReservation

/-!
# Builders and validator of reservations

Two encodings of one state machine: the builders, which write the successor of a record,
and the validator, which accepts it or not.

* `validateTransition_iff` — what the validator asks for.
* `AcceptedSuccessor` — a record that keeps the lease of its predecessor, with the time and the
  state of a legal edge; the validator accepts it.
* `LifecycleCall` — the builders with their arguments.
-/

namespace Fdai.Core

open Fdai.Providers (Digest)

/-- What the constructor of a record checks. -/
structure ReservationFields.Sound (r : ReservationFields) : Prop where
  owner : r.ownerReferenceDigest = r.identity.acquisitionReceipt.ownerTokenDigest
  lease : r.reservedAt < r.leaseExpiresAt
  acquired : r.identity.acquisitionReceipt.acquiredAt ≤ r.reservedAt
  changed : r.reservedAt ≤ r.stateChangedAt
  shape : validateStateShape r = .ok ()
  revision : r.state.minimumRevision ≤ r.revision

theorem ReservationFields.sound_of_check {r : ReservationFields} (valid : r.check = .ok ()) :
    r.Sound := by
  simp only [check, check_bind_eq_ok, validate_cons_eq_ok, validate_nil, decide_eq_true_eq] at valid
  obtain ⟨⟨-, -, owner, lease, acquired, changed, -⟩, shape, revision, -⟩ := valid
  exact ⟨owner, lease, acquired, changed, shape, revision⟩

/-- A record satisfies what its constructor checks. -/
theorem IdempotencyReservationRecord.sound (r : IdempotencyReservationRecord) :
    r.toReservationFields.Sound :=
  ReservationFields.sound_of_check r.valid

theorem inFlight_shape {r : ReservationFields} (shape : validateStateShape r = .ok ())
    (inFlight : r.state = .inFlight) :
    r.dispatchStartedAt = some r.stateChangedAt ∧ r.stateChangedAt < r.leaseExpiresAt := by
  simp only [validateStateShape, inFlight, validate_cons_eq_ok, Bool.and_eq_true,
    decide_eq_true_eq] at shape
  exact ⟨shape.1.1.1.1.1, shape.1.1.1.1.2⟩

/-- A reserved record changed state when it was reserved, and nothing was dispatched. -/
theorem reserved_shape {r : ReservationFields} (shape : validateStateShape r = .ok ())
    (reserved : r.state = .reserved) :
    r.stateChangedAt = r.reservedAt ∧ r.dispatchStartedAt = none := by
  simp only [validateStateShape, reserved, validate_cons_eq_ok, Bool.and_eq_true,
    decide_eq_true_eq, Option.isNone_iff_eq_none] at shape
  exact ⟨shape.1, shape.2.1.1.1.1⟩

variable {fields : ReservationFields}

theorem buildReservation_ok {r : IdempotencyReservationRecord}
    (built : buildReservation fields = .ok r) : r.toReservationFields = fields := by
  unfold buildReservation at built
  split at built
  · obtain rfl := Except.ok.inj built
    rfl
  · cases built

/-- A transition within one attempt. -/
structure KeepsLease (prior current : ReservationFields) : Prop where
  identity : prior.identity = current.identity
  reservedAt : prior.reservedAt = current.reservedAt
  leaseExpiresAt : prior.leaseExpiresAt = current.leaseExpiresAt
  owner : prior.ownerReferenceDigest = current.ownerReferenceDigest
  dispatch : prior.dispatchStartedAt = none ∨ current.dispatchStartedAt = prior.dispatchStartedAt

/-- A transition to a new attempt. -/
structure Reopens (prior current : IdempotencyReservationRecord) : Prop where
  operation : sameOperation prior.identity current.identity = true
  attempt : prior.identity.attempt < current.identity.attempt
  acquired : prior.stateChangedAt ≤ current.identity.acquisitionReceipt.acquiredAt ∧
    current.identity.acquisitionReceipt.acquiredAt ≤ current.reservedAt
  evidence : prior.state = .abandoned ∨ prior.isNonAcceptance = true

/-- **What the validator accepts.** -/
theorem validateTransition_iff {prior current : IdempotencyReservationRecord} :
    validateTransition prior current = .ok () ↔
      current.state ∈ prior.state.legalEdges ∧ prior.stateChangedAt ≤ current.stateChangedAt ∧
        (current.state = .reserved ∧ Reopens prior current ∨ current.state ≠ .reserved ∧
            KeepsLease prior.toReservationFields current.toReservationFields) := by
  by_cases reserved : current.state = .reserved
  · simp only [validateTransition, reserved, ↓reduceIte, check_bind_eq_ok, validate_cons_eq_ok,
      validate_nil, decide_eq_true_eq, Bool.and_eq_true, Bool.or_eq_true, and_true, true_and,
      ne_eq, not_true_eq_false, false_and, or_false, and_assoc]
    refine and_congr_right fun _ => and_congr_right fun _ => ?_
    constructor
    · rintro ⟨operation, attempt, after, before, evidence⟩
      exact ⟨operation, attempt, ⟨after, before⟩, evidence⟩
    · rintro ⟨operation, attempt, ⟨after, before⟩, evidence⟩
      exact ⟨operation, attempt, after, before, evidence⟩
  · simp only [validateTransition, reserved, ↓reduceIte, check_bind_eq_ok, validate_cons_eq_ok,
      validate_nil, decide_eq_true_eq, Bool.and_eq_true, Bool.or_eq_true, and_true, true_and,
      ne_eq, not_false_eq_true, false_and, false_or, and_assoc,
      Option.isNone_iff_eq_none]
    refine and_congr_right fun _ => and_congr_right fun _ => ?_
    constructor
    · rintro ⟨identity, reservedAt, leaseExpiresAt, owner, dispatch⟩
      exact ⟨identity, reservedAt, leaseExpiresAt, owner, dispatch⟩
    · rintro ⟨identity, reservedAt, leaseExpiresAt, owner, dispatch⟩
      exact ⟨identity, reservedAt, leaseExpiresAt, owner, dispatch⟩

/-- What is asked of the record a builder returns. -/
structure AcceptedSuccessor (prior current : IdempotencyReservationRecord) : Prop where
  shape : validateStateShape current.toReservationFields = .ok ()
  transition : validateTransition prior current = .ok ()
  revision : current.revision = prior.revision + 1

variable {r result : IdempotencyReservationRecord}

/-- Fields that continue the attempt of a record along a legal edge. -/
structure Continues (r : IdempotencyReservationRecord) (fields : ReservationFields) : Prop where
  edge : fields.state ∈ r.state.legalEdges ∧ fields.state ≠ .reserved
  forward : r.stateChangedAt ≤ fields.stateChangedAt
  identity : fields.identity = r.identity
  revision : fields.revision = r.revision + 1
  reservedAt : fields.reservedAt = r.reservedAt
  leaseExpiresAt : fields.leaseExpiresAt = r.leaseExpiresAt
  dispatch : r.dispatchStartedAt = none ∨ fields.dispatchStartedAt = r.dispatchStartedAt

/-- **Within an attempt.** What continues it is accepted. -/
theorem Continues.accepted (continues : Continues r fields)
    (built : buildReservation fields = .ok result) : AcceptedSuccessor r result := by
  have same := buildReservation_ok built
  have sound := result.sound
  rw [same] at sound
  refine ⟨same ▸ sound.shape, validateTransition_iff.2 ?_, ?_⟩
  · rw [same]
    refine ⟨continues.edge.1, continues.forward, .inr ⟨continues.edge.2, ?_⟩⟩
    refine ⟨continues.identity.symm, continues.reservedAt.symm, continues.leaseExpiresAt.symm,
      ?_, continues.dispatch⟩
    -- The owner is that of the identity's acquisition on both sides.
    rw [sound.owner, r.sound.owner, continues.identity]
  · rw [same, continues.revision]

/-- An edge within an attempt. -/
theorem edge_of {s t : ReservationState} (before : r.state = s) (after : fields.state = t)
    (legal : t ∈ s.legalEdges ∧ t ≠ .reserved) :
    fields.state ∈ r.state.legalEdges ∧ fields.state ≠ .reserved := by
  rw [before, after]
  exact legal

/-- A time that is read as an instant. -/
theorem reservationUtc_bind_eq_ok {α : Type} {name : String} {value : Datetime}
    {f : ℤ → Except String α} {b : α} :
    (reservationUtc name value >>= f) = .ok b ↔
      ∃ instant, value.instant? = some instant ∧ f instant = .ok b := by
  rw [bind_eq_ok]
  unfold reservationUtc utc
  cases value.instant? with
  | none | some instant => simp

/-! ## The builders -/

variable {moment : Datetime}

theorem beginDispatch_accepted
    (built : beginDispatch r moment = .ok result) : AcceptedSuccessor r result := by
  simp only [beginDispatch, reservationUtc_bind_eq_ok, check_bind_eq_ok, validate_cons_eq_ok,
    dispatchPermitted, Bool.and_eq_true, decide_eq_true_eq] at built
  obtain ⟨startedAt, -, ⟨⟨⟨reserved, after⟩, -⟩, -⟩, built⟩ := built
  obtain ⟨changed, undispatched⟩ := reserved_shape r.sound.shape reserved
  refine Continues.accepted ?_ built
  refine ⟨edge_of (t := .inFlight) reserved rfl (by decide), ?_, rfl, rfl, rfl, rfl,
    .inl undispatched⟩
  rw [changed]
  exact after

variable {digest : Digest}

theorem continues_abandoned {abandonedAt : ℤ}
    (reserved : r.state = .reserved) (forward : r.stateChangedAt ≤ abandonedAt) :
    Continues r (abandonedFields r abandonedAt digest) := by
  obtain ⟨-, undispatched⟩ := reserved_shape r.sound.shape reserved
  exact ⟨edge_of (t := .abandoned) reserved rfl (by decide), forward, rfl, rfl, rfl, rfl,
    .inl undispatched⟩

theorem expireReservation_accepted {digest : Option Digest}
    (built : expireReservation r moment digest = .ok result) : AcceptedSuccessor r result := by
  simp only [expireReservation, reservationUtc_bind_eq_ok, check_bind_eq_ok,
    validate_cons_eq_ok, decide_eq_true_eq] at built
  obtain ⟨expiredAt, -, ⟨expired, -⟩, built⟩ := built
  cases state : r.state with
  | reserved =>
    rcases digest with _ | digest
    · simp [state] at built
    simp only [state, check_bind_eq_ok] at built
    refine Continues.accepted (continues_abandoned state ?_) built.2
    have lease := r.sound.lease
    have changed := (reserved_shape r.sound.shape state).1
    omega
  | inFlight =>
    simp only [state] at built
    have beforeExpiry := (inFlight_shape r.sound.shape state).2
    refine Continues.accepted ?_ built
    refine ⟨edge_of (t := .outcomeUnknown) state rfl (by decide), ?_, rfl, rfl, rfl, rfl, .inr rfl⟩
    exact Int.le_trans (Int.le_of_lt beforeExpiry) expired
  | terminal | abandoned | outcomeUnknown => simp [state] at built

theorem abandonReservation_accepted
    (built : abandonReservationBeforeDispatch r moment digest = .ok result) :
    AcceptedSuccessor r result := by
  simp only [abandonReservationBeforeDispatch, reservationUtc_bind_eq_ok, check_bind_eq_ok,
    validate_cons_eq_ok, decide_eq_true_eq] at built
  obtain ⟨abandonedAt, -, ⟨reserved, forward, -⟩, built⟩ := built
  exact (continues_abandoned reserved forward).accepted built

/-- Both ways to complete a reservation. -/
theorem completeWith_accepted {outcome evidence : Digest}
    {kind : ReservationEvidenceKind} {evidenceName : String}
    (built : completeWith r moment outcome kind evidenceName evidence = .ok result) :
    AcceptedSuccessor r result := by
  simp only [completeWith, reservationUtc_bind_eq_ok, check_bind_eq_ok, validate_cons_eq_ok,
    Bool.or_eq_true, Bool.and_eq_true, decide_eq_true_eq] at built
  obtain ⟨completedAt, -, ⟨awaiting, ⟨-, forward⟩, -⟩, built⟩ := built
  refine Continues.accepted ?_ built
  refine ⟨?_, forward, rfl, rfl, rfl, rfl, .inr rfl⟩
  rcases awaiting with inFlight | unknown
  · exact edge_of (t := .terminal) inFlight rfl (by decide)
  · exact edge_of (t := .terminal) unknown rfl (by decide)

theorem quarantineReservation_accepted
    (built : quarantineReservation r moment digest = .ok result) :
    AcceptedSuccessor r result := by
  simp only [quarantineReservation, reservationUtc_bind_eq_ok, check_bind_eq_ok,
    validate_cons_eq_ok, decide_eq_true_eq] at built
  obtain ⟨quarantinedAt, -, ⟨inFlight, afterDispatch, -⟩, built⟩ := built
  obtain ⟨dispatched, -⟩ := inFlight_shape r.sound.shape inFlight
  refine Continues.accepted ?_ built
  refine ⟨edge_of (t := .outcomeUnknown) inFlight rfl (by decide), ?_, rfl, rfl, rfl, rfl, .inr rfl⟩
  -- An in-flight record changed state when its dispatch started.
  rw [dispatched] at afterDispatch
  exact of_decide_eq_true afterDispatch

theorem reopenReservation_accepted {candidate : IdempotencyReservationIdentity}
    {reservedAt leaseExpiresAt : Datetime}
    (built : reopenReservation r candidate reservedAt leaseExpiresAt = .ok result) :
    AcceptedSuccessor r result := by
  simp only [reopenReservation, reservationUtc_bind_eq_ok, check_bind_eq_ok,
    validate_cons_eq_ok, Bool.or_eq_true, Bool.and_eq_true, decide_eq_true_eq] at built
  obtain ⟨⟨evidence, operation, attempt, -⟩, reserved, -, ⟨forward, acquired, -⟩, lease, -,
    built⟩ := built
  have same := buildReservation_ok built
  have sound := result.sound
  rw [same] at sound
  refine ⟨same ▸ sound.shape, validateTransition_iff.2 ⟨?_, ?_, .inl ⟨?_, ?_⟩⟩, ?_⟩
  · rw [same]
    show ReservationState.reserved ∈ r.state.legalEdges
    rcases evidence with abandoned | refused
    · rw [abandoned]
      decide
    simp only [IdempotencyReservationRecord.isNonAcceptance, Bool.and_eq_true,
      decide_eq_true_eq] at refused
    rw [refused.1]
    decide
  · rw [same]
    exact forward
  · rw [same]
    rfl
  · have identity : result.identity = candidate := congrArg (·.identity) same
    have reservedTime : result.reservedAt = reserved := congrArg (·.reservedAt) same
    refine ⟨?_, ?_, ?_, evidence⟩
    · rw [identity]
      exact operation
    · rw [identity]
      exact attempt
    · rw [identity, reservedTime]
      exact acquired
  · rw [same]
    rfl

/-- A builder with its arguments. -/
inductive LifecycleCall where
  | beginDispatch (moment : Datetime)
  | expire (moment : Datetime) (dispatchNeverBeganDigest : Option Digest)
  | abandonBeforeDispatch (moment : Datetime) (dispatchNeverBeganDigest : Digest)
  | complete (moment : Datetime) (terminalOutcomeDigest authoritativeStatusDigest : Digest)
      (irrevocableNonAcceptance : Bool)
  | completeFromVerifier (moment : Datetime)
      (terminalOutcomeDigest independentEffectReceiptDigest : Digest)
  | quarantine (moment : Datetime) (continuityEvidenceDigest : Digest)
  | reopen (candidate : IdempotencyReservationIdentity) (reservedAt leaseExpiresAt : Datetime)

/-- What the call returns on a record. -/
def LifecycleCall.apply (r : IdempotencyReservationRecord) :
    LifecycleCall → Except String IdempotencyReservationRecord
  | .beginDispatch moment => Core.beginDispatch r moment
  | .expire moment digest => expireReservation r moment digest
  | .abandonBeforeDispatch moment digest => abandonReservationBeforeDispatch r moment digest
  | .complete moment outcome status irrevocable =>
    completeReservation r moment outcome status irrevocable
  | .completeFromVerifier moment outcome receipt =>
    completeReservationFromVerifier r moment outcome receipt
  | .quarantine moment digest => quarantineReservation r moment digest
  | .reopen candidate reservedAt leaseExpiresAt =>
    reopenReservation r candidate reservedAt leaseExpiresAt

/-- **Builders and validator agree.** Every record that a builder returns has the shape of
its state and is accepted as the successor of the input at the next revision. -/
theorem lifecycle_accepted (r : IdempotencyReservationRecord) (call : LifecycleCall)
    (result : IdempotencyReservationRecord) (built : call.apply r = .ok result) :
    AcceptedSuccessor r result := by
  cases call with
  | beginDispatch => exact beginDispatch_accepted built
  | expire => exact expireReservation_accepted built
  | abandonBeforeDispatch => exact abandonReservation_accepted built
  | complete | completeFromVerifier => exact completeWith_accepted built
  | quarantine => exact quarantineReservation_accepted built
  | reopen => exact reopenReservation_accepted built

namespace TestKey

def receipt (attempt : ℕ) (acquiredAt : ℤ) (attempt_pos : 1 ≤ attempt) :
    ResourceLockAcquisitionReceipt :=
  { lockKey := "vm-1", targetDigest := .ofTexts ["vm-1"], actionDigest := .ofTexts ["restart"]
    attempt, ownerTokenDigest := .ofTexts ["owner"], acquiredAt
    sourceRevision := "commit:0000000000000000000000000000000000000000"
    receiptDigest := .ofFields [.text "receipt", .num attempt], attempt_pos }

/-- An attempt to restart one machine. -/
def identity (attempt : ℕ) (acquiredAt : ℤ) (attempt_pos : 1 ≤ attempt) :
    IdempotencyReservationIdentity :=
  { idempotencyKey := "restart-vm-1", actionDigest := .ofTexts ["restart"]
    executionPath := .directApi
    executionFingerprint := "0000000000000000000000000000000000000000000000000000000000000000"
    sourceRevision := "commit:0000000000000000000000000000000000000000"
    acquisitionReceipt := receipt attempt acquiredAt attempt_pos
    key_canonical := by decide +kernel
    action_wellFormed := by decide
    fingerprint_canonical := by decide +kernel
    revision_canonical := by decide +kernel
    action_acquired := rfl
    source_acquired := rfl }

def reserved : IdempotencyReservationRecord :=
  { reservationFields (identity 1 0 Nat.one_pos) .reserved 1 10 20 10 with
    valid := by decide +kernel }

def inFlight : IdempotencyReservationRecord :=
  { reserved.successor .inFlight 12 with dispatchStartedAt := some 12, valid := by decide +kernel }

end TestKey

open TestKey in
theorem beginDispatch_accepted_reserved : AcceptedSuccessor reserved inFlight :=
  lifecycle_accepted reserved (.beginDispatch (.aware 12)) inFlight (by rfl)

end Fdai.Core
