import Fdai.Executor.PostReleaseClosure

/-!
# Post-release closure plans

The predecessor and successor records that one database write replaces when a dispatch is
closed.

* `PostReleaseClosurePlan` — a plan carries what its constructor checks: the bindings
  between its records.
* `buildInitialPostReleaseClosure` — closes a release, as resolved or as quarantined.
* `buildReconciledPostReleaseClosure` — resolves a quarantine from later evidence.
-/

namespace Fdai.Core

open Fdai.Providers (Digest)

/-! ## Plans -/

structure ClosurePlanFields where
  preReleaseRecord : SafeguardDispatchEvidenceRecord
  priorReservationRecord : IdempotencyReservationRecord
  reservationRecord : IdempotencyReservationRecord
  priorFenceRecord : TargetDispatchFenceRecord
  fenceRecord : TargetDispatchFenceRecord
  releaseReceipt : ResourceLockReleaseReceipt
  record : PostReleaseClosureRecord

namespace ClosurePlanFields

variable (plan : ClosurePlanFields)

/-- The fence a plan starts from. -/
def validateFencePredecessor (start : SafeguardDispatchStartCheckpoint) : Except String Unit :=
  match plan.record.val.phase with
  | .initial => do
    validate [(plan.priorFenceRecord.state = .releasePending,
      "initial post-release closure requires release-pending fence")]
    validateFenceTransition start.inFlightFence plan.priorFenceRecord
  | .reconciliation => validate [(plan.priorFenceRecord.state = .quarantined,
      "post-release reconciliation requires quarantined fence")]

/-- The reservation of a plan moves along its own transitions, or stays. -/
def validateReservationStep : Except String Unit :=
  if plan.reservationRecord = plan.priorReservationRecord then .ok ()
  else validateTransition plan.priorReservationRecord plan.reservationRecord

/-- The closure record is about the records of the plan. -/
def validateRecordFields : Except String Unit :=
  validate [(plan.record.val.preReleaseRecordDigest = plan.preReleaseRecord.val.recordDigest &&
        plan.record.val.priorReservationRecordDigest = plan.priorReservationRecord.recordDigest &&
        plan.record.val.reservationRecordDigest = plan.reservationRecord.recordDigest &&
        plan.record.val.priorFenceRecordDigest = plan.priorFenceRecord.recordDigest &&
        plan.record.val.fenceRecordDigest = plan.fenceRecord.recordDigest &&
        plan.record.val.releaseReceiptDigest = plan.releaseReceipt.val.receiptDigest,
        "post-release plan record digests mismatched exact records"),
      (plan.record.val.preReleaseRecordRevision = plan.preReleaseRecord.val.revision &&
        plan.record.val.reservationState = plan.reservationRecord.state &&
        plan.record.val.reservationRevision = plan.reservationRecord.revision &&
        plan.record.val.fenceState = plan.fenceRecord.state &&
        plan.record.val.fenceRevision = plan.fenceRecord.revision &&
        plan.record.val.releaseState = plan.releaseReceipt.val.state &&
        plan.record.val.releaseAttestationDigest =
          plan.releaseReceipt.val.providerAttestationDigest &&
        plan.record.val.releaseObservedAt = plan.releaseReceipt.val.observedAt &&
        plan.record.val.releaseRecordedAt = plan.releaseReceipt.val.recordedAt,
        "post-release plan record fields mismatched exact records")]

/-- `_validate_plan_bindings`. -/
def validateBindings : Except String Unit := do
  let identity := plan.record.val.identity
  let derived ← identityFromPreRelease plan.preReleaseRecord
  validate [(derived = identity, "post-release plan changed pre-release identity")]
  match plan.preReleaseRecord.val.dispatchStartCheckpoint with
  | none => .error "post-release plan lacks dispatch-start lineage"
  | some start => do
    validate [(plan.priorReservationRecord.identity.identityDigest =
            identity.val.reservationIdentityDigest &&
          plan.priorReservationRecord.identity.attempt = identity.val.reservationAttempt &&
          plan.releaseReceipt.val.acquisitionReceipt =
            plan.priorReservationRecord.identity.acquisitionReceipt,
          "post-release plan changed reservation acquisition"),
        (plan.priorFenceRecord.identity.targetDigest = identity.val.targetDigest &&
          plan.priorFenceRecord.identity.generation = identity.val.targetFenceGeneration &&
          plan.priorFenceRecord.identity.reservationIdentityDigest =
            identity.val.reservationIdentityDigest,
          "post-release plan changed target fence generation")]
    plan.validateFencePredecessor start
    plan.validateReservationStep
    validateFenceTransition plan.priorFenceRecord plan.fenceRecord
    plan.validateRecordFields

/-- The checks of the plan constructor. -/
def check : Except String Unit := do
  validate [(plan.preReleaseRecord.val.state = .preRelease,
    "post-release plan requires exact pre-release evidence")]
  plan.validateBindings

end ClosurePlanFields

abbrev PostReleaseClosurePlan := Valid ClosurePlanFields.check

/-- `_continuity_digest`, of the checkpoints the evidence holds. -/
def continuityDigest (preRelease : SafeguardDispatchEvidenceRecord)
    (checkpoint : PreReleaseOwnershipCheckpoint) (observation : SafeguardDispatchObservation)
    (receipt : ResourceLockReleaseReceipt)
    (evidence : Option PostReleaseReconciliationEvidence) : Digest :=
  .ofFields [.text "post-release-continuity-evidence", preRelease.val.recordDigest,
    checkpoint.checkpointDigest, observation.val.observationDigest, receipt.val.receiptDigest,
    absentOrDigest (evidence.map (·.val.appendReceiptDigest))]

def resolutionDigest (continuityEvidenceDigest : Digest)
    (evidence : Option PostReleaseReconciliationEvidence) : Digest :=
  .ofFields [.text "post-release-target-resolution", continuityEvidenceDigest,
    absentOrDigest (evidence.map (·.val.evidenceDigest)),
    absentOrDigest (evidence.map (·.val.appendReceiptDigest))]

def initialContinuityState (checkpoint : PreReleaseOwnershipCheckpoint)
    (observation : SafeguardDispatchObservation) (receipt : ResourceLockReleaseReceipt) :
    PostReleaseContinuityState :=
  if checkpoint.continuityState = .current && receipt.val.state = .released &&
      observation.val.sinkState.isTerminal
  then .continuity
  else .continuityUnproven

def initialOutcome : PostReleaseContinuityState → PostReleaseClosureOutcome
  | .continuity => .resolved
  | .continuityUnproven => .quarantined

def initialReservation (reservation : IdempotencyReservationRecord) (closedAt : ℤ)
    (observation : SafeguardDispatchObservation) (outcome : PostReleaseClosureOutcome)
    (continuity : Digest) : Except String IdempotencyReservationRecord :=
  match outcome with
  | .resolved =>
    match observation.val.authoritativeStatusDigest with
    | none => .error "resolved post-release closure requires authoritative sink status"
    | some status => completeReservation reservation (.aware closedAt) continuity status
        (observation.val.sinkState = .notAccepted)
  | .quarantined =>
    if reservation.state = .outcomeUnknown then .ok reservation
    else quarantineReservation reservation (.aware closedAt) continuity

def buildInitialPostReleaseClosure (preRelease : SafeguardDispatchEvidenceRecord)
    (reservation : IdempotencyReservationRecord) (fence : TargetDispatchFenceRecord)
    (receipt : ResourceLockReleaseReceipt) (closedAt : Datetime) (forceQuarantine : Bool) :
    Except String PostReleaseClosurePlan := do
  let identity ← identityFromPreRelease preRelease
  let normalizedAt ← utc "safeguard dispatch evidence" "closed_at" closedAt
  match preRelease.val.preReleaseCheckpoint, preRelease.val.dispatchObservation with
  | some checkpoint, some observation => do
    validate [(fence.state = .releasePending,
          "initial post-release closure requires release-pending fence"),
        (reservation.state = .inFlight || reservation.state = .outcomeUnknown,
          "initial post-release closure requires unresolved reservation"),
        (receipt.val.acquisitionReceipt = reservation.identity.acquisitionReceipt,
          "post-release release receipt changed acquisition")]
    let continuityState := if forceQuarantine then .continuityUnproven
      else initialContinuityState checkpoint observation receipt
    let outcome := initialOutcome continuityState
    let continuity := continuityDigest preRelease checkpoint observation receipt none
    let nextReservation ← initialReservation reservation normalizedAt observation outcome continuity
    let nextFence ← closeAfterRelease fence (outcome = .quarantined)
      (resolutionDigest continuity none) (.aware normalizedAt)
    let record ← createPostReleaseClosureRecord identity preRelease reservation
      nextReservation fence nextFence receipt
      { revision := 1, priorRecordDigest := none, phase := .initial, outcome, continuityState
        continuityEvidenceDigest := continuity
        authoritativeStatusDigest := observation.val.authoritativeStatusDigest
        reconciliationEvidence := none, closedAt := normalizedAt }
    construct ClosurePlanFields.check
      { preReleaseRecord := preRelease, priorReservationRecord := reservation
        reservationRecord := nextReservation, priorFenceRecord := fence
        fenceRecord := nextFence, releaseReceipt := receipt, record }
  | _, _ => .error "post-release closure lacks dispatch or pre-release evidence"

/-- The reservation after a reconciliation. -/
def reconciledReservation (reservation : IdempotencyReservationRecord) (reconciledAt : ℤ)
    (evidence : PostReleaseReconciliationEvidence) (continuity : Digest) :
    Except String IdempotencyReservationRecord :=
  match evidence.val.kind with
  | .authoritativeSinkStatus => completeReservation reservation (.aware reconciledAt) continuity
      evidence.val.evidenceDigest (evidence.val.outcome = .sinkIrrevocablyNotAccepted)
  | .independentEffect => completeReservationFromVerifier reservation (.aware reconciledAt)
      continuity evidence.val.appendReceiptDigest

/-- The authoritative status after a reconciliation. -/
def reconciledStatus (prior : PostReleaseClosureRecord)
    (evidence : PostReleaseReconciliationEvidence) : Option Digest :=
  match evidence.val.kind with
  | .authoritativeSinkStatus => some evidence.val.evidenceDigest
  | .independentEffect => prior.val.authoritativeStatusDigest

/-- The checks of a reconciliation up to the time of the evidence. -/
def validateReconciliation (prior : PostReleaseClosureRecord)
    (preRelease : SafeguardDispatchEvidenceRecord) (receipt : ResourceLockReleaseReceipt)
    (evidence : PostReleaseReconciliationEvidence) (identity : PostReleaseClosureIdentity) :
    Except String Unit :=
  validate [(identity = prior.val.identity, "post-release reconciliation changed closure identity"),
      (preRelease.val.recordDigest = prior.val.preReleaseRecordDigest &&
        preRelease.val.revision = prior.val.preReleaseRecordRevision,
        "post-release reconciliation changed pre-release evidence"),
      (receipt.val.receiptDigest = prior.val.releaseReceiptDigest &&
        receipt.val.state = prior.val.releaseState &&
        receipt.val.providerAttestationDigest = prior.val.releaseAttestationDigest &&
        receipt.val.observedAt = prior.val.releaseObservedAt &&
        receipt.val.recordedAt = prior.val.releaseRecordedAt,
        "post-release reconciliation rewrote release evidence"),
      (evidence.val.targetDigest = identity.val.targetDigest &&
        evidence.val.targetFenceGeneration = identity.val.targetFenceGeneration &&
        evidence.val.evidenceIdentityDigest = identity.val.evidenceIdentityDigest,
        "post-release reconciliation evidence changed generation"),
      (prior.val.closedAt ≤ evidence.val.persistedAt,
        "post-release reconciliation evidence predates quarantine")]

def buildReconciledPostReleaseClosure (prior : PostReleaseClosureRecord)
    (preRelease : SafeguardDispatchEvidenceRecord)
    (reservation : IdempotencyReservationRecord) (fence : TargetDispatchFenceRecord)
    (receipt : ResourceLockReleaseReceipt) (evidence : PostReleaseReconciliationEvidence)
    (reconciledAt : Datetime) : Except String PostReleaseClosurePlan := do
  validate [(prior.val.outcome = .quarantined,
    "post-release reconciliation requires quarantined closure")]
  let identity ← identityFromPreRelease preRelease
  validateReconciliation prior preRelease receipt evidence identity
  let normalizedAt ← utc "safeguard dispatch evidence" "reconciled_at" reconciledAt
  validate [(evidence.val.persistedAt ≤ normalizedAt,
        "post-release reconciliation predates durable evidence"),
      (reservation.recordDigest = prior.val.reservationRecordDigest &&
        fence.recordDigest = prior.val.fenceRecordDigest,
        "post-release reconciliation predecessor changed")]
  match preRelease.val.preReleaseCheckpoint, preRelease.val.dispatchObservation with
  | some checkpoint, some observation => do
    let continuity := continuityDigest preRelease checkpoint observation receipt (some evidence)
    let nextReservation ← reconciledReservation reservation normalizedAt evidence continuity
    let nextFence ← closeAfterRelease fence false (resolutionDigest continuity (some evidence))
      (.aware normalizedAt)
    let record ← createPostReleaseClosureRecord identity preRelease reservation
      nextReservation fence nextFence receipt
      { revision := prior.val.revision + 1, priorRecordDigest := some prior.val.recordDigest
        phase := .reconciliation, outcome := .resolved
        continuityState := prior.val.continuityState, continuityEvidenceDigest := continuity
        authoritativeStatusDigest := reconciledStatus prior evidence
        reconciliationEvidence := some evidence, closedAt := normalizedAt }
    construct ClosurePlanFields.check
      { preReleaseRecord := preRelease, priorReservationRecord := reservation
        reservationRecord := nextReservation, priorFenceRecord := fence
        fenceRecord := nextFence, releaseReceipt := receipt, record }
  | _, _ => .error "post-release continuity digest lacks evidence"

end Fdai.Core
