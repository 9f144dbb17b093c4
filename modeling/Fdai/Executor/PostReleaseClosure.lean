import Fdai.Executor.SafeguardDispatchEvidence

/-!
# Post-release closure records

The terminal record of one dispatch after its target lock was released.

* `PostReleaseReconciliationEvidence` — what may resolve a quarantine later.
* `PostReleaseClosureIdentity` — the attempt and the generation that are closed.
* `PostReleaseClosureRecord` — one revision of the closure, with the checks of its
  constructor.
* `createPostReleaseClosureRecord` — its builder.
-/

namespace Fdai.Core

open Fdai.Providers (Digest)

/-- Whether a record closes a release or reconciles a quarantine. -/
inductive PostReleaseClosurePhase where
  | initial | reconciliation
  deriving DecidableEq

def PostReleaseClosurePhase.value : PostReleaseClosurePhase → String
  | .initial => "initial"
  | .reconciliation => "reconciliation"

/-- Disposition of the target after one closure. -/
inductive PostReleaseClosureOutcome where
  | resolved | quarantined
  deriving DecidableEq

def PostReleaseClosureOutcome.value : PostReleaseClosureOutcome → String
  | .resolved => "resolved"
  | .quarantined => "quarantined"

/-- Whether ownership is evidenced up to the terminal state. -/
inductive PostReleaseContinuityState where
  | continuity | continuityUnproven
  deriving DecidableEq

def PostReleaseContinuityState.value : PostReleaseContinuityState → String
  | .continuity => "continuity"
  | .continuityUnproven => "continuity_unproven"

/-- Whose evidence a reconciliation rests on. -/
inductive ReconciliationEvidenceKind where
  | authoritativeSinkStatus | independentEffect
  deriving DecidableEq

def ReconciliationEvidenceKind.value : ReconciliationEvidenceKind → String
  | .authoritativeSinkStatus => "authoritative_sink_status"
  | .independentEffect => "independent_effect"

/-- Outcomes that may resolve a quarantine. -/
inductive ReconciliationOutcome where
  | sinkCommitted | sinkNotCommitted | sinkIrrevocablyNotAccepted | effectVerified
  | effectMismatch
  deriving DecidableEq

def ReconciliationOutcome.value : ReconciliationOutcome → String
  | .sinkCommitted => "sink_committed"
  | .sinkNotCommitted => "sink_not_committed"
  | .sinkIrrevocablyNotAccepted => "sink_irrevocably_not_accepted"
  | .effectVerified => "effect_verified"
  | .effectMismatch => "effect_mismatch"

/-- The outcomes a sink reports. -/
def ReconciliationOutcome.isSink (outcome : ReconciliationOutcome) : Bool :=
  outcome = .sinkCommitted || outcome = .sinkNotCommitted || outcome = .sinkIrrevocablyNotAccepted

structure ReconciliationEvidenceFields where
  kind : ReconciliationEvidenceKind
  outcome : ReconciliationOutcome
  targetDigest : Digest
  targetFenceGeneration : ℕ
  evidenceIdentityDigest : Digest
  sourceId : String
  sourceVersion : String
  trustAnchorId : String
  evidenceDigest : Digest
  observedAt : ℤ
  persistedAt : ℤ
  appendReceiptDigest : Digest

def ReconciliationEvidenceFields.check (e : ReconciliationEvidenceFields) : Except String Unit :=
  validate [(decide (e.kind = .authoritativeSinkStatus) = e.outcome.isSink,
        "post-release reconciliation authority mismatched outcome"),
      dispatchDigest "target_digest" e.targetDigest,
      dispatchDigest "evidence_identity_digest" e.evidenceIdentityDigest,
      dispatchDigest "evidence_digest" e.evidenceDigest,
      dispatchDigest "append_receipt_digest" e.appendReceiptDigest,
      (1 ≤ e.targetFenceGeneration, "post-release reconciliation generation MUST be positive"),
      dispatchText "source_id" e.sourceId,
      dispatchText "source_version" e.sourceVersion,
      dispatchText "trust_anchor_id" e.trustAnchorId,
      (e.observedAt ≤ e.persistedAt,
        "post-release reconciliation persistence predates observation")]

abbrev PostReleaseReconciliationEvidence := Valid ReconciliationEvidenceFields.check

/-- The evidence as part of a digest. -/
def ReconciliationEvidenceFields.content (e : ReconciliationEvidenceFields) : Digest :=
  .ofFields [.text e.kind.value, .text e.outcome.value, e.targetDigest,
    .num e.targetFenceGeneration, e.evidenceIdentityDigest, .text e.sourceId,
    .text e.sourceVersion, .text e.trustAnchorId, e.evidenceDigest, instantDigest e.observedAt,
    instantDigest e.persistedAt, e.appendReceiptDigest]

def closureKeyOf (reservationIdentityDigest : Digest) (reservationAttempt : ℕ) : Digest :=
  .ofFields [.text "post-release-closure-key", reservationIdentityDigest, .num reservationAttempt]

structure ClosureIdentityFields where
  closureKey : Digest
  reservationIdentityDigest : Digest
  reservationAttempt : ℕ
  targetDigest : Digest
  targetFenceGeneration : ℕ
  evidenceIdentityDigest : Digest
  auditAppendReceiptDigest : Digest
  clientCorrelationId : String
  sinkIdempotencyKey : String
  deriving DecidableEq

/-- The checks of the identity constructor. -/
def ClosureIdentityFields.check (i : ClosureIdentityFields) : Except String Unit :=
  validate [dispatchDigest "closure_key" i.closureKey,
      dispatchDigest "reservation_identity_digest" i.reservationIdentityDigest,
      dispatchDigest "target_digest" i.targetDigest,
      dispatchDigest "evidence_identity_digest" i.evidenceIdentityDigest,
      dispatchDigest "audit_append_receipt_digest" i.auditAppendReceiptDigest,
      (1 ≤ i.reservationAttempt, "post-release reservation attempt MUST be positive"),
      (1 ≤ i.targetFenceGeneration, "post-release target generation MUST be positive"),
      dispatchText "client_correlation_id" i.clientCorrelationId,
      dispatchText "sink_idempotency_key" i.sinkIdempotencyKey,
      (i.closureKey = closureKeyOf i.reservationIdentityDigest i.reservationAttempt,
        "post-release closure key mismatched reservation attempt")]

abbrev PostReleaseClosureIdentity := Valid ClosureIdentityFields.check

def ClosureIdentityFields.identityDigest (i : ClosureIdentityFields) : Digest :=
  .ofFields [.text "post-release-closure-identity", i.closureKey, i.reservationIdentityDigest,
    .num i.reservationAttempt, i.targetDigest, .num i.targetFenceGeneration,
    i.evidenceIdentityDigest, i.auditAppendReceiptDigest, .text i.clientCorrelationId,
    .text i.sinkIdempotencyKey]

/-- The fields `from_pre_release` fills in. -/
def identityFieldsOf (evidence : SafeguardDispatchEvidenceIdentity) : ClosureIdentityFields where
  closureKey := closureKeyOf evidence.reservationIdentityDigest evidence.reservationAttempt
  reservationIdentityDigest := evidence.reservationIdentityDigest
  reservationAttempt := evidence.reservationAttempt
  targetDigest := evidence.targetDigest
  targetFenceGeneration := evidence.targetFenceGeneration
  evidenceIdentityDigest := evidence.identityDigest
  auditAppendReceiptDigest := evidence.auditAppendReceiptDigest
  clientCorrelationId := evidence.clientCorrelationId
  sinkIdempotencyKey := evidence.sinkIdempotencyKey

/-- `from_pre_release`. -/
def identityFromPreRelease (preRelease : SafeguardDispatchEvidenceRecord) :
    Except String PostReleaseClosureIdentity := do
  validate [(preRelease.val.state = .preRelease,
    "post-release closure requires pre-release evidence")]
  construct ClosureIdentityFields.check (identityFieldsOf preRelease.val.identity)

/-! ## Closure records -/

/-- The fields of a closure record, its own digest apart. -/
structure ClosureRecordFields where
  identity : PostReleaseClosureIdentity
  revision : ℕ
  priorRecordDigest : Option Digest
  phase : PostReleaseClosurePhase
  outcome : PostReleaseClosureOutcome
  preReleaseRecordDigest : Digest
  preReleaseRecordRevision : ℕ
  priorReservationRecordDigest : Digest
  reservationRecordDigest : Digest
  reservationState : ReservationState
  reservationRevision : ℕ
  priorFenceRecordDigest : Digest
  fenceRecordDigest : Digest
  fenceState : TargetDispatchFenceState
  fenceRevision : ℕ
  releaseState : ResourceLockReleaseState
  releaseReceiptDigest : Digest
  releaseAttestationDigest : Digest
  releaseObservedAt : Option ℤ
  releaseRecordedAt : ℤ
  continuityState : PostReleaseContinuityState
  continuityEvidenceDigest : Digest
  authoritativeStatusDigest : Option Digest
  reconciliationEvidence : Option PostReleaseReconciliationEvidence
  auditClosureDigest : Digest
  outboxEventId : Digest
  closedAt : ℤ

/-- `_validate_record_shape`. -/
def ClosureRecordFields.validateShape (r : ClosureRecordFields) : Except String Unit := do
  validate [(decide (r.outcome = .resolved) = decide (r.fenceState = .resolved),
        "post-release closure outcome mismatched target fence"),
      (r.outcome ≠ .resolved || r.reservationState = .terminal,
        "resolved post-release closure requires terminal reservation"),
      (r.outcome = .resolved ||
        (r.fenceState = .quarantined && r.reservationState = .outcomeUnknown),
        "quarantined closure requires unknown reservation and fence quarantine")]
  match r.phase with
  | .initial =>
    validate [(r.reconciliationEvidence.isNone,
          "initial post-release closure cannot contain reconciliation evidence"),
        (r.outcome ≠ .resolved || r.continuityState = .continuity,
          "initial resolved closure requires proven continuity")]
  | .reconciliation =>
    validate [(r.reconciliationEvidence.isSome && r.outcome = .resolved,
          "post-release reconciliation requires evidence and resolved outcome")]

def auditDigestValues (closureKey : Digest) (revision : ℕ) (outcome : PostReleaseClosureOutcome)
    (continuityEvidenceDigest releaseReceiptDigest reservationRecordDigest
      fenceRecordDigest : Digest) (closedAt : ℤ) : Digest :=
  .ofFields [.text "executor-post-release-audit-closure", closureKey, .num revision,
    .text outcome.value, continuityEvidenceDigest, releaseReceiptDigest,
    reservationRecordDigest, fenceRecordDigest, instantDigest closedAt]

def ClosureRecordFields.auditDigest (r : ClosureRecordFields) : Digest :=
  auditDigestValues r.identity.val.closureKey r.revision r.outcome r.continuityEvidenceDigest
    r.releaseReceiptDigest r.reservationRecordDigest r.fenceRecordDigest r.closedAt

def outboxEventIdValues (closureKey : Digest) (revision : ℕ) : Digest :=
  .ofFields [.text "executor-post-release-outbox-event", closureKey, .num revision]

/-- The checks of the record constructor. -/
def ClosureRecordFields.check (r : ClosureRecordFields) : Except String Unit := do
  validate [(1 ≤ r.revision, "post-release closure revision MUST be positive"),
      (r.revision ≠ 1 || (r.priorRecordDigest.isNone && r.phase = .initial),
        "initial post-release closure predecessor is invalid"),
      (r.revision = 1 || (r.priorRecordDigest.isSome && r.phase = .reconciliation),
        "reconciled post-release closure predecessor is invalid"),
      dispatchDigest? "prior_record_digest" r.priorRecordDigest,
      dispatchDigest "pre_release_record_digest" r.preReleaseRecordDigest,
      dispatchDigest "prior_reservation_record_digest" r.priorReservationRecordDigest,
      dispatchDigest "reservation_record_digest" r.reservationRecordDigest,
      dispatchDigest "prior_fence_record_digest" r.priorFenceRecordDigest,
      dispatchDigest "fence_record_digest" r.fenceRecordDigest,
      dispatchDigest "release_receipt_digest" r.releaseReceiptDigest,
      dispatchDigest "release_attestation_digest" r.releaseAttestationDigest,
      dispatchDigest "continuity_evidence_digest" r.continuityEvidenceDigest,
      dispatchDigest "audit_closure_digest" r.auditClosureDigest,
      dispatchDigest "outbox_event_id" r.outboxEventId,
      dispatchDigest? "authoritative_status_digest" r.authoritativeStatusDigest,
      (1 ≤ r.preReleaseRecordRevision, "post-release pre_release_record_revision MUST be positive"),
      (1 ≤ r.reservationRevision, "post-release reservation_revision MUST be positive"),
      (1 ≤ r.fenceRevision, "post-release fence_revision MUST be positive"),
      (r.releaseRecordedAt ≤ r.closedAt && r.releaseObservedAt.all (· ≤ r.releaseRecordedAt),
        "post-release closure chronology is invalid"),
      (r.releaseState = .unknown || r.releaseObservedAt.isSome,
        "known post-release release state requires observation")]
  r.validateShape
  validate [(r.auditClosureDigest = r.auditDigest, "post-release audit closure digest mismatched"),
      (r.outboxEventId = outboxEventIdValues r.identity.val.closureKey r.revision,
        "post-release outbox identity mismatched")]

abbrev PostReleaseClosureRecord := Valid ClosureRecordFields.check

def ClosureRecordFields.recordDigest (r : ClosureRecordFields) : Digest :=
  .ofFields [.text "post-release-closure-record", r.identity.val.identityDigest,
    .num r.revision, absentOrDigest r.priorRecordDigest, .text r.phase.value,
    .text r.outcome.value, r.preReleaseRecordDigest, .num r.preReleaseRecordRevision,
    r.priorReservationRecordDigest, r.reservationRecordDigest, .text r.reservationState.value,
    .num r.reservationRevision, r.priorFenceRecordDigest, r.fenceRecordDigest,
    .text r.fenceState.value, .num r.fenceRevision, .text r.releaseState.value,
    r.releaseReceiptDigest, r.releaseAttestationDigest,
    absentOrDigest (r.releaseObservedAt.map instantDigest), instantDigest r.releaseRecordedAt,
    .text r.continuityState.value, r.continuityEvidenceDigest,
    absentOrDigest r.authoritativeStatusDigest,
    absentOrDigest (r.reconciliationEvidence.map (·.val.content)), r.auditClosureDigest,
    r.outboxEventId, instantDigest r.closedAt]

/-- What a builder of a closure decides; the rest is read off the records. -/
structure ClosureVerdict where
  revision : ℕ
  priorRecordDigest : Option Digest
  phase : PostReleaseClosurePhase
  outcome : PostReleaseClosureOutcome
  continuityState : PostReleaseContinuityState
  continuityEvidenceDigest : Digest
  authoritativeStatusDigest : Option Digest
  reconciliationEvidence : Option PostReleaseReconciliationEvidence
  closedAt : ℤ

/-- The values `create_post_release_closure_record` fills in. -/
def closureFields (identity : PostReleaseClosureIdentity)
    (preRelease : SafeguardDispatchEvidenceRecord)
    (priorReservation reservation : IdempotencyReservationRecord)
    (priorFence fence : TargetDispatchFenceRecord) (receipt : ResourceLockReleaseReceipt)
    (verdict : ClosureVerdict) : ClosureRecordFields where
  identity
  revision := verdict.revision
  priorRecordDigest := verdict.priorRecordDigest
  phase := verdict.phase
  outcome := verdict.outcome
  preReleaseRecordDigest := preRelease.val.recordDigest
  preReleaseRecordRevision := preRelease.val.revision
  priorReservationRecordDigest := priorReservation.recordDigest
  reservationRecordDigest := reservation.recordDigest
  reservationState := reservation.state
  reservationRevision := reservation.revision
  priorFenceRecordDigest := priorFence.recordDigest
  fenceRecordDigest := fence.recordDigest
  fenceState := fence.state
  fenceRevision := fence.revision
  releaseState := receipt.val.state
  releaseReceiptDigest := receipt.val.receiptDigest
  releaseAttestationDigest := receipt.val.providerAttestationDigest
  releaseObservedAt := receipt.val.observedAt
  releaseRecordedAt := receipt.val.recordedAt
  continuityState := verdict.continuityState
  continuityEvidenceDigest := verdict.continuityEvidenceDigest
  authoritativeStatusDigest := verdict.authoritativeStatusDigest
  reconciliationEvidence := verdict.reconciliationEvidence
  auditClosureDigest := auditDigestValues identity.val.closureKey verdict.revision
    verdict.outcome verdict.continuityEvidenceDigest receipt.val.receiptDigest
    reservation.recordDigest fence.recordDigest verdict.closedAt
  outboxEventId := outboxEventIdValues identity.val.closureKey verdict.revision
  closedAt := verdict.closedAt

def createPostReleaseClosureRecord (identity : PostReleaseClosureIdentity)
    (preRelease : SafeguardDispatchEvidenceRecord)
    (priorReservation reservation : IdempotencyReservationRecord)
    (priorFence fence : TargetDispatchFenceRecord) (receipt : ResourceLockReleaseReceipt)
    (verdict : ClosureVerdict) : Except String PostReleaseClosureRecord :=
  construct ClosureRecordFields.check
    (closureFields identity preRelease priorReservation reservation priorFence fence receipt
      verdict)

end Fdai.Core
