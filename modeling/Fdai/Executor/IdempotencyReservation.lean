import Fdai.Providers.Contracts

/-!
# Idempotency reservations

The durable record of one stable key: which attempt holds it, and how far its dispatch got.

* `IdempotencyReservationRecord` — a record carries what its constructor checks, so a record
  with the wrong evidence for its state cannot be built.
* `validateTransition` — which record may replace which.
* `beginDispatch`, `expireReservation`, …, `reopenReservation` — the builders of successors.

Digests of identities and records are functions of their content, so they are no fields.
-/

namespace Fdai.Core

open Fdai.Providers (Digest)

/-- Lifecycle of a reservation. -/
inductive ReservationState where
  | reserved | inFlight | terminal | abandoned | outcomeUnknown
  deriving DecidableEq

/-- Evidence of a closing transition. -/
inductive ReservationEvidenceKind where
  | dispatchNeverBegan | leaseExpired | continuityUnproven | sinkTerminalOutcome
  | irrevocableNonAcceptance | independentEffectOutcome
  deriving DecidableEq

def ReservationState.value : ReservationState → String
  | .reserved => "reserved"
  | .inFlight => "in_flight"
  | .terminal => "terminal"
  | .abandoned => "abandoned"
  | .outcomeUnknown => "outcome_unknown"

def ReservationEvidenceKind.value : ReservationEvidenceKind → String
  | .dispatchNeverBegan => "dispatch_never_began"
  | .leaseExpired => "lease_expired"
  | .continuityUnproven => "continuity_unproven"
  | .sinkTerminalOutcome => "sink_terminal_outcome"
  | .irrevocableNonAcceptance => "irrevocable_non_acceptance"
  | .independentEffectOutcome => "independent_effect_outcome"

/-- The action, path, source and acquisition bound to a stable key. -/
structure IdempotencyReservationIdentity where
  idempotencyKey : String
  actionDigest : Digest
  executionPath : ExecutionPath
  executionFingerprint : String
  sourceRevision : String
  acquisitionReceipt : ResourceLockAcquisitionReceipt
  key_canonical : canonicalText idempotencyKey = true
  action_wellFormed : wellFormedDigest actionDigest = true
  fingerprint_canonical : isFingerprint executionFingerprint = true
  revision_canonical : isRevision sourceRevision = true
  action_acquired : acquisitionReceipt.actionDigest = actionDigest
  source_acquired : acquisitionReceipt.sourceRevision = sourceRevision
  deriving DecidableEq

namespace IdempotencyReservationIdentity

def identityDigest (identity : IdempotencyReservationIdentity) : Digest :=
  .ofFields [.text "idempotency-reservation-identity", .text identity.idempotencyKey,
    identity.actionDigest, .text identity.executionPath.value,
    .text identity.executionFingerprint, .text identity.sourceRevision,
    identity.acquisitionReceipt.receiptDigest]

/-- The attempt the key is acquired for. -/
def attempt (identity : IdempotencyReservationIdentity) : ℕ :=
  identity.acquisitionReceipt.attempt

end IdempotencyReservationIdentity

/-- `same_operation`: two attempts of one operation. -/
def sameOperation (left right : IdempotencyReservationIdentity) : Bool :=
  left.idempotencyKey = right.idempotencyKey && left.actionDigest = right.actionDigest &&
    left.executionPath = right.executionPath &&
    left.executionFingerprint = right.executionFingerprint &&
    left.sourceRevision = right.sourceRevision &&
    left.acquisitionReceipt.lockKey = right.acquisitionReceipt.lockKey &&
    left.acquisitionReceipt.targetDigest = right.acquisitionReceipt.targetDigest

/-! ## Records -/

/-- The fields of a record. -/
structure ReservationFields where
  identity : IdempotencyReservationIdentity
  state : ReservationState
  revision : ℕ
  ownerReferenceDigest : Digest
  reservedAt : ℤ
  leaseExpiresAt : ℤ
  stateChangedAt : ℤ
  dispatchStartedAt : Option ℤ := none
  evidenceKind : Option ReservationEvidenceKind := none
  evidenceDigest : Option Digest := none
  terminalOutcomeDigest : Option Digest := none
  deriving DecidableEq

/-- `validate_reservation_state_shape`. -/
def validateStateShape (r : ReservationFields) : Except String Unit :=
  match r.state with
  | .reserved => validate
      [(r.stateChangedAt = r.reservedAt, "reserved idempotency state change time is invalid"),
        (r.dispatchStartedAt.isNone && r.evidenceKind.isNone && r.evidenceDigest.isNone &&
          r.terminalOutcomeDigest.isNone,
          "reserved idempotency state contains later-phase evidence")]
  | .inFlight => validate
      [(r.dispatchStartedAt = some r.stateChangedAt && r.stateChangedAt < r.leaseExpiresAt &&
          r.evidenceKind.isNone && r.evidenceDigest.isNone && r.terminalOutcomeDigest.isNone,
          "in-flight idempotency state shape is invalid")]
  | .abandoned => validate
      [(r.dispatchStartedAt.isNone && r.evidenceKind = some .dispatchNeverBegan &&
          r.evidenceDigest.isSome && r.terminalOutcomeDigest.isNone,
          "abandoned idempotency state requires no-dispatch evidence")]
  | .outcomeUnknown => validate [(r.dispatchStartedAt.isSome &&
          (r.evidenceKind = some .leaseExpired || r.evidenceKind = some .continuityUnproven) &&
          r.evidenceDigest.isSome && r.terminalOutcomeDigest.isNone,
          "unknown idempotency state requires continuity evidence"),
        (r.evidenceKind ≠ some .leaseExpired || r.leaseExpiresAt ≤ r.stateChangedAt,
          "lease-expired idempotency evidence predates expiry"),
        (r.evidenceKind ≠ some .continuityUnproven ||
          r.dispatchStartedAt.all (· ≤ r.stateChangedAt),
          "continuity evidence predates dispatch")]
  | .terminal => validate [(r.dispatchStartedAt.any (· ≤ r.stateChangedAt) &&
          (r.evidenceKind = some .sinkTerminalOutcome ||
            r.evidenceKind = some .irrevocableNonAcceptance ||
            r.evidenceKind = some .independentEffectOutcome) &&
          r.evidenceDigest.isSome && r.terminalOutcomeDigest.isSome,
          "terminal idempotency state requires authoritative sink evidence")]

/-- The least revision a state can have. -/
def ReservationState.minimumRevision : ReservationState → ℕ
  | .reserved => 1
  | .inFlight => 2
  | .abandoned => 2
  | .outcomeUnknown => 3
  | .terminal => 3

/-- The checks of the record constructor. -/
def ReservationFields.check (r : ReservationFields) : Except String Unit := do
  validate [(1 ≤ r.revision, "idempotency reservation revision MUST be positive"),
      (wellFormedDigest r.ownerReferenceDigest,
        "idempotency reservation owner_reference_digest MUST be SHA-256"),
      (r.ownerReferenceDigest = r.identity.acquisitionReceipt.ownerTokenDigest,
        "idempotency reservation owner mismatched acquisition"),
      (r.reservedAt < r.leaseExpiresAt, "idempotency reservation lease MUST follow reservation"),
      (r.identity.acquisitionReceipt.acquiredAt ≤ r.reservedAt,
        "idempotency reservation predates its lock acquisition"),
      (r.reservedAt ≤ r.stateChangedAt,
        "idempotency reservation state change predates reservation"),
      (r.dispatchStartedAt.all (r.reservedAt ≤ ·),
        "idempotency dispatch cannot predate reservation"),
      (r.evidenceDigest.all wellFormedDigest,
        "idempotency reservation evidence_digest MUST be SHA-256"),
      (r.terminalOutcomeDigest.all wellFormedDigest,
        "idempotency reservation terminal_outcome_digest MUST be SHA-256")]
  validateStateShape r
  validate [(r.state.minimumRevision ≤ r.revision,
      "idempotency reservation state revision is impossible")]

/-- The current state of a reservation. -/
structure IdempotencyReservationRecord extends ReservationFields where
  /-- The fields pass the checks of the constructor. -/
  valid : toReservationFields.check = .ok ()
  deriving DecidableEq

/-- `IdempotencyReservationRecord(**values)`. -/
def buildReservation (fields : ReservationFields) : Except String IdempotencyReservationRecord :=
  match valid : fields.check with
  | .ok () => .ok { fields with valid }
  | .error message => .error message

def IdempotencyReservationRecord.recordDigest (r : IdempotencyReservationRecord) : Digest :=
  .ofFields [.text "idempotency-reservation-record", r.identity.identityDigest,
    .text r.state.value, .num r.revision, r.ownerReferenceDigest, instantDigest r.reservedAt,
    instantDigest r.leaseExpiresAt, instantDigest r.stateChangedAt,
    absentOrDigest (r.dispatchStartedAt.map instantDigest),
    absentOrDigest (r.evidenceKind.map (.text ·.value)), absentOrDigest r.evidenceDigest,
    absentOrDigest r.terminalOutcomeDigest]

/-- The states that may follow a state. -/
def ReservationState.legalEdges : ReservationState → List ReservationState
  | .reserved => [.inFlight, .abandoned]
  | .inFlight => [.terminal, .outcomeUnknown]
  | .outcomeUnknown => [.terminal]
  | .terminal => [.reserved]
  | .abandoned => [.reserved]

/-- Evidence that the sink never accepted, and never will accept, the attempt. -/
def IdempotencyReservationRecord.isNonAcceptance (r : IdempotencyReservationRecord) : Bool :=
  r.state = .terminal && r.evidenceKind = some .irrevocableNonAcceptance

def validateTransition (prior current : IdempotencyReservationRecord) : Except String Unit := do
  validate [(current.state ∈ prior.state.legalEdges,
        "idempotency reservation transition edge is invalid"),
      (prior.stateChangedAt ≤ current.stateChangedAt,
        "idempotency reservation transition is backdated")]
  if current.state = .reserved then
    validate [(sameOperation prior.identity current.identity,
          "idempotency reservation recovery changes the stable operation"),
        (prior.identity.attempt < current.identity.attempt,
          "idempotency reservation recovery attempt MUST increase"),
        (prior.stateChangedAt ≤ current.identity.acquisitionReceipt.acquiredAt &&
          current.identity.acquisitionReceipt.acquiredAt ≤ current.reservedAt,
          "idempotency reservation recovery acquisition time is invalid"),
        (prior.state = .abandoned || prior.isNonAcceptance,
          "idempotency reservation recovery lacks non-dispatch evidence")]
  else
    validate [(prior.identity = current.identity,
          "idempotency reservation transition identity changed"),
        (prior.reservedAt = current.reservedAt && prior.leaseExpiresAt = current.leaseExpiresAt &&
          prior.ownerReferenceDigest = current.ownerReferenceDigest,
          "idempotency reservation transition rewrote its lease or owner"),
        (prior.dispatchStartedAt.isNone || current.dispatchStartedAt = prior.dispatchStartedAt,
          "idempotency reservation transition rewrote dispatch time")]

/-! ## Builders -/

/-- The fields `_build_record` fills in. -/
def reservationFields (identity : IdempotencyReservationIdentity) (state : ReservationState)
    (revision : ℕ) (reservedAt leaseExpiresAt stateChangedAt : ℤ) : ReservationFields where
  identity
  state
  revision
  ownerReferenceDigest := identity.acquisitionReceipt.ownerTokenDigest
  reservedAt
  leaseExpiresAt
  stateChangedAt

/-- The fields of the successor of a record that keeps its lease. -/
def IdempotencyReservationRecord.successor (r : IdempotencyReservationRecord)
    (state : ReservationState) (stateChangedAt : ℤ) : ReservationFields :=
  reservationFields r.identity state (r.revision + 1) r.reservedAt r.leaseExpiresAt stateChangedAt

/-- `_utc` of this module. -/
def reservationUtc (name : String) (value : Datetime) : Except String ℤ :=
  utc "idempotency reservation" name value

/-- `_validate_digest`, as a check. -/
def reservationDigest (name : String) (digest : Digest) : Bool × String :=
  (wellFormedDigest digest, "idempotency reservation " ++ name ++ " MUST be SHA-256")

def dispatchPermitted (r : IdempotencyReservationRecord) (observedAt : ℤ) : Bool :=
  r.state = .reserved && r.reservedAt ≤ observedAt && observedAt < r.leaseExpiresAt

def beginDispatch (r : IdempotencyReservationRecord) (moment : Datetime) :
    Except String IdempotencyReservationRecord := do
  let startedAt ← reservationUtc "dispatch_started_at" moment
  validate [(dispatchPermitted r startedAt, "idempotency reservation is not eligible to dispatch")]
  buildReservation { r.successor .inFlight startedAt with dispatchStartedAt := some startedAt }

/-- The successor of a reserved record whose dispatch never began. -/
def abandonedFields (r : IdempotencyReservationRecord) (abandonedAt : ℤ)
    (dispatchNeverBeganDigest : Digest) : ReservationFields :=
  { r.successor .abandoned abandonedAt with
    evidenceKind := some .dispatchNeverBegan
    evidenceDigest := some dispatchNeverBeganDigest }

def expireReservation (r : IdempotencyReservationRecord) (moment : Datetime)
    (dispatchNeverBeganDigest : Option Digest) :
    Except String IdempotencyReservationRecord := do
  let expiredAt ← reservationUtc "expired_at" moment
  validate [(r.leaseExpiresAt ≤ expiredAt, "idempotency reservation lease has not expired")]
  match r.state, dispatchNeverBeganDigest with
  | .reserved, none => .error "abandonment requires proof that dispatch never began"
  | .reserved, some digest =>
    validate [reservationDigest "dispatch_never_began_digest" digest]
    buildReservation (abandonedFields r expiredAt digest)
  | .inFlight, _ =>
    buildReservation
      { r.successor .outcomeUnknown expiredAt with
        dispatchStartedAt := r.dispatchStartedAt
        evidenceKind := some .leaseExpired
        evidenceDigest := some (.ofFields [.text "idempotency-reservation-expiry",
          r.recordDigest, instantDigest expiredAt]) }
  | _, _ => .error "idempotency reservation state cannot be expired"

def abandonReservationBeforeDispatch (r : IdempotencyReservationRecord) (moment : Datetime)
    (dispatchNeverBeganDigest : Digest) : Except String IdempotencyReservationRecord := do
  let abandonedAt ← reservationUtc "abandoned_at" moment
  validate [(r.state = .reserved,
        "only a reserved idempotency state can be abandoned before dispatch"),
      (r.stateChangedAt ≤ abandonedAt, "idempotency abandonment predates reservation"),
      reservationDigest "dispatch_never_began_digest" dispatchNeverBeganDigest]
  buildReservation (abandonedFields r abandonedAt dispatchNeverBeganDigest)

/-- The two ways to complete a reservation, from a status of the sink and from an
independent verifier, differ in the kind of evidence and the name of its digest. -/
def completeWith (r : IdempotencyReservationRecord) (moment : Datetime)
    (terminalOutcomeDigest : Digest) (kind : ReservationEvidenceKind) (evidenceName : String)
    (evidence : Digest) : Except String IdempotencyReservationRecord := do
  let completedAt ← reservationUtc "completed_at" moment
  validate [(r.state = .inFlight || r.state = .outcomeUnknown,
        "idempotency reservation is not awaiting a terminal outcome"),
      (r.dispatchStartedAt.any (· ≤ completedAt) && r.stateChangedAt ≤ completedAt,
        "idempotency terminal outcome predates current state"),
      reservationDigest "terminal_outcome_digest" terminalOutcomeDigest,
      reservationDigest evidenceName evidence]
  buildReservation
    { r.successor .terminal completedAt with
      dispatchStartedAt := r.dispatchStartedAt
      evidenceKind := some kind
      evidenceDigest := some evidence
      terminalOutcomeDigest := some terminalOutcomeDigest }

def completeReservation (r : IdempotencyReservationRecord) (moment : Datetime)
    (terminalOutcomeDigest authoritativeStatusDigest : Digest)
    (irrevocableNonAcceptance : Bool) : Except String IdempotencyReservationRecord :=
  completeWith r moment terminalOutcomeDigest
    (if irrevocableNonAcceptance then .irrevocableNonAcceptance else .sinkTerminalOutcome)
    "authoritative_status_digest" authoritativeStatusDigest

def completeReservationFromVerifier (r : IdempotencyReservationRecord) (moment : Datetime)
    (terminalOutcomeDigest independentEffectReceiptDigest : Digest) :
    Except String IdempotencyReservationRecord :=
  completeWith r moment terminalOutcomeDigest .independentEffectOutcome
    "independent_effect_receipt_digest" independentEffectReceiptDigest

def quarantineReservation (r : IdempotencyReservationRecord) (moment : Datetime)
    (continuityEvidenceDigest : Digest) : Except String IdempotencyReservationRecord := do
  let quarantinedAt ← reservationUtc "quarantined_at" moment
  validate [(r.state = .inFlight, "only an in-flight reservation can enter continuity quarantine"),
      (r.dispatchStartedAt.any (· ≤ quarantinedAt), "idempotency quarantine predates dispatch"),
      reservationDigest "continuity_evidence_digest" continuityEvidenceDigest]
  buildReservation
    { r.successor .outcomeUnknown quarantinedAt with
      dispatchStartedAt := r.dispatchStartedAt
      evidenceKind := some .continuityUnproven
      evidenceDigest := some continuityEvidenceDigest }

def reopenReservation (r : IdempotencyReservationRecord)
    (candidate : IdempotencyReservationIdentity) (reservedAt leaseExpiresAt : Datetime) :
    Except String IdempotencyReservationRecord := do
  validate [(r.state = .abandoned || r.isNonAcceptance,
        "idempotency reservation has no safe recovery evidence"),
      (sameOperation r.identity candidate,
        "idempotency reservation recovery changes the stable operation"),
      (r.identity.attempt < candidate.attempt,
        "idempotency reservation recovery attempt MUST increase")]
  let reservedAt ← reservationUtc "reserved_at" reservedAt
  validate [(r.stateChangedAt ≤ reservedAt,
        "idempotency reservation recovery predates its predecessor"),
      (r.stateChangedAt ≤ candidate.acquisitionReceipt.acquiredAt &&
        candidate.acquisitionReceipt.acquiredAt ≤ reservedAt,
        "idempotency reservation recovery acquisition time is invalid")]
  let leaseExpiresAt ← reservationUtc "lease_expires_at" leaseExpiresAt
  buildReservation
    (reservationFields candidate .reserved (r.revision + 1) reservedAt leaseExpiresAt reservedAt)

end Fdai.Core
