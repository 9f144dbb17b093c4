import Fdai.Executor.TargetDispatchFence

/-!
# Dispatch evidence before the release

What is durable of one dispatch when its target lock is about to be released.

* `SafeguardDispatchObservation` — what the transport and the sink reported.
* `PreReleaseOwnershipCheckpoint` — whether the lock was still owned after the dispatch.
* `SafeguardDispatchEvidenceRecord` — the record of one target-fence generation, with the
  checkpoints its state calls for.
* `ResourceLockReleaseReceipt` — what became of the lock itself.

The digest of a record covers fields that no closure reads; it stands for them.
-/

namespace Fdai.Core

open Fdai.Providers (Digest)

/-- Lifecycle of the evidence. -/
inductive SafeguardDispatchEvidenceState where
  | bundlePersisted | dispatchStarted | dispatchObserved | preRelease
  deriving DecidableEq

/-- What the sink is known to have done. -/
inductive AuthoritativeSinkState where
  | unobserved | accepted | notAccepted | committed | notCommitted | unknown
  deriving DecidableEq

/-- Whether ownership was proven after the dispatch. -/
inductive PreReleaseContinuityState where
  | current | continuityUnproven
  deriving DecidableEq

/-- What is known of the release of one acquisition. -/
inductive ResourceLockReleaseState where
  | released | lost | unknown
  deriving DecidableEq

def ResourceLockReleaseState.value : ResourceLockReleaseState → String
  | .released => "released"
  | .lost => "lost"
  | .unknown => "unknown"

/-- `validate_digest` of this module, as a check. -/
def dispatchDigest (name : String) (digest : Digest) : Bool × String :=
  (wellFormedDigest digest, "safeguard dispatch evidence " ++ name ++ " MUST be SHA-256")

/-- `validate_digest` of a field that may be absent. -/
def dispatchDigest? (name : String) (digest : Option Digest) : Bool × String :=
  (digest.all wellFormedDigest, "safeguard dispatch evidence " ++ name ++ " MUST be SHA-256")

/-- `validate_text` of this module, as a check. -/
def dispatchText (name : String) (value : String) : Bool × String :=
  (canonicalText value, "safeguard dispatch evidence " ++ name ++ " MUST be canonical")

structure ObservationFields where
  evidenceIdentityDigest : Digest
  sinkState : AuthoritativeSinkState
  sinkOperationReferenceDigest : Option Digest
  authoritativeStatusDigest : Option Digest
  dispatchStartedAt : ℤ
  observedAt : ℤ
  observationDigest : Digest

/-- The checks of the observation constructor. -/
def ObservationFields.check (o : ObservationFields) : Except String Unit :=
  validate [dispatchDigest "evidence_identity_digest" o.evidenceIdentityDigest,
      dispatchDigest? "sink_operation_reference_digest" o.sinkOperationReferenceDigest,
      dispatchDigest? "authoritative_status_digest" o.authoritativeStatusDigest,
      (!(o.sinkState = .accepted || o.sinkState = .notAccepted || o.sinkState = .committed ||
        o.sinkState = .notCommitted) || o.authoritativeStatusDigest.isSome,
        "authoritative sink state requires status evidence"),
      (!(o.sinkState = .accepted || o.sinkState = .committed) ||
        o.sinkOperationReferenceDigest.isSome,
        "accepted sink state requires operation reference"),
      (!(o.sinkState = .unobserved || o.sinkState = .unknown) || o.authoritativeStatusDigest.isNone,
        "unknown sink state cannot carry authoritative status"),
      (o.dispatchStartedAt ≤ o.observedAt, "dispatch observation predates dispatch start"),
      dispatchDigest "observation_digest" o.observationDigest]

abbrev SafeguardDispatchObservation := Valid ObservationFields.check

/-- The part of a pre-release checkpoint that a closure reads. -/
structure PreReleaseOwnershipCheckpoint where
  evidenceIdentityDigest : Digest
  continuityState : PreReleaseContinuityState
  checkpointDigest : Digest
  checkpoint_wellFormed : wellFormedDigest checkpointDigest = true

/-- The part of a dispatch-start checkpoint that a closure reads. -/
structure SafeguardDispatchStartCheckpoint where
  evidenceIdentityDigest : Digest
  inFlightFence : TargetDispatchFenceRecord
  checkpointDigest : Digest

/-! ## Evidence records -/

/-- The fence, the reservation attempt, the audit receipt and the sink of one dispatch. -/
structure SafeguardDispatchEvidenceIdentity where
  targetDigest : Digest
  targetFenceGeneration : ℕ
  reservationIdentityDigest : Digest
  reservationAttempt : ℕ
  auditAppendReceiptDigest : Digest
  clientCorrelationId : String
  sinkIdempotencyKey : String
  identityDigest : Digest
  target_wellFormed : wellFormedDigest targetDigest = true
  generation_pos : 1 ≤ targetFenceGeneration
  reservation_wellFormed : wellFormedDigest reservationIdentityDigest = true
  attempt_pos : 1 ≤ reservationAttempt
  audit_wellFormed : wellFormedDigest auditAppendReceiptDigest = true
  correlation_canonical : canonicalText clientCorrelationId = true
  key_canonical : canonicalText sinkIdempotencyKey = true
  identity_wellFormed : wellFormedDigest identityDigest = true

structure DispatchEvidenceFields where
  identity : SafeguardDispatchEvidenceIdentity
  state : SafeguardDispatchEvidenceState
  revision : ℕ
  priorRecordDigest : Option Digest
  dispatchStartCheckpoint : Option SafeguardDispatchStartCheckpoint
  dispatchObservation : Option SafeguardDispatchObservation
  preReleaseCheckpoint : Option PreReleaseOwnershipCheckpoint
  stateChangedAt : ℤ
  recordDigest : Digest

/-- `validate_record_shape`. -/
def DispatchEvidenceFields.validateShape (r : DispatchEvidenceFields) : Except String Unit :=
  match r.state with
  | .bundlePersisted => validate
      [(r.revision = 1 && r.dispatchStartCheckpoint.isNone && r.dispatchObservation.isNone &&
          r.preReleaseCheckpoint.isNone,
        "bundle-persisted dispatch evidence shape is invalid")]
  | .dispatchStarted => validate
      [(r.dispatchStartCheckpoint.any (·.evidenceIdentityDigest = r.identity.identityDigest) &&
          r.dispatchObservation.isNone && r.preReleaseCheckpoint.isNone,
        "dispatch-started evidence shape is invalid")]
  | .dispatchObserved => validate [(r.dispatchStartCheckpoint.isSome &&
          r.dispatchObservation.any (·.val.evidenceIdentityDigest = r.identity.identityDigest) &&
          r.preReleaseCheckpoint.isNone,
        "dispatch-observed evidence shape is invalid")]
  | .preRelease => validate [(r.dispatchStartCheckpoint.isSome && r.dispatchObservation.isSome &&
          r.preReleaseCheckpoint.any (·.evidenceIdentityDigest = r.identity.identityDigest),
        "pre-release dispatch evidence shape is invalid")]

/-- The checks of the record constructor. -/
def DispatchEvidenceFields.check (r : DispatchEvidenceFields) : Except String Unit := do
  validate [(1 ≤ r.revision, "safeguard dispatch evidence revision MUST be positive"),
      (r.revision ≠ 1 || r.priorRecordDigest.isNone,
        "initial safeguard dispatch evidence has predecessor"),
      (r.revision = 1 || r.priorRecordDigest.isSome,
        "safeguard dispatch evidence transition lacks predecessor"),
      dispatchDigest? "prior_record_digest" r.priorRecordDigest]
  r.validateShape
  validate [dispatchDigest "record_digest" r.recordDigest]

abbrev SafeguardDispatchEvidenceRecord := Valid DispatchEvidenceFields.check

structure ReleaseReceiptFields where
  acquisitionReceipt : ResourceLockAcquisitionReceipt
  state : ResourceLockReleaseState
  providerAttestationDigest : Digest
  observedAt : Option ℤ
  recordedAt : ℤ

/-- The checks of the receipt constructor. -/
def ReleaseReceiptFields.check (r : ReleaseReceiptFields) : Except String Unit :=
  validate [(wellFormedDigest r.providerAttestationDigest,
        "resource lock release attestation MUST be SHA-256"),
      (!(r.state = .released || r.state = .lost) || r.observedAt.isSome,
        "known resource lock release state requires observation time"),
      (r.observedAt.all fun observed =>
          r.acquisitionReceipt.acquiredAt ≤ observed && observed ≤ r.recordedAt,
        "resource lock release chronology is invalid"),
      (r.state = .unknown || r.acquisitionReceipt.acquiredAt ≤ r.recordedAt,
        "resource lock release chronology is invalid")]

abbrev ResourceLockReleaseReceipt := Valid ReleaseReceiptFields.check

def ReleaseReceiptFields.receiptDigest (r : ReleaseReceiptFields) : Digest :=
  .ofFields [.text "resource-lock-release", r.acquisitionReceipt.receiptDigest,
    .text r.state.value, r.providerAttestationDigest,
    absentOrDigest (r.observedAt.map instantDigest), instantDigest r.recordedAt]

/-- A sink state that is final. -/
def AuthoritativeSinkState.isTerminal (state : AuthoritativeSinkState) : Bool :=
  state = .committed || state = .notCommitted || state = .notAccepted

/-- A final sink state comes with the status that shows it. -/
theorem SafeguardDispatchObservation.status_of_terminal (o : SafeguardDispatchObservation)
    (terminal : o.val.sinkState.isTerminal = true) :
    ∃ status, o.val.authoritativeStatusDigest = some status ∧ wellFormedDigest status = true := by
  have checked := o.property
  simp only [ObservationFields.check, validate_cons_eq_ok, dispatchDigest?, Bool.or_eq_true,
    Bool.not_eq_true', Bool.or_eq_false_iff, decide_eq_true_eq, decide_eq_false_iff_not] at checked
  obtain ⟨-, -, formed, status, -⟩ := checked
  simp only [AuthoritativeSinkState.isTerminal, Bool.or_eq_true, decide_eq_true_eq] at terminal
  have present : o.val.authoritativeStatusDigest.isSome = true := by
    rcases status with none_of | present
    · obtain ⟨⟨⟨-, notAccepted⟩, committed⟩, notCommitted⟩ := none_of
      rcases terminal with (is | is) | is
      · exact absurd is committed
      · exact absurd is notCommitted
      · exact absurd is notAccepted
    · exact present
  obtain ⟨digest, same⟩ := Option.isSome_iff_exists.1 present
  rw [same] at formed
  exact ⟨digest, same, formed⟩

theorem SafeguardDispatchObservation.status_formed (o : SafeguardDispatchObservation) :
    o.val.authoritativeStatusDigest.all wellFormedDigest = true := by
  have checked := o.property
  simp only [ObservationFields.check, validate_cons_eq_ok, dispatchDigest?] at checked
  exact checked.2.2.1

structure PreReleaseEvidence (r : DispatchEvidenceFields)
    (start : SafeguardDispatchStartCheckpoint) (observation : SafeguardDispatchObservation)
    (checkpoint : PreReleaseOwnershipCheckpoint) : Prop where
  start : r.dispatchStartCheckpoint = some start
  observation : r.dispatchObservation = some observation
  checkpoint : r.preReleaseCheckpoint = some checkpoint
  revision : 1 ≤ r.revision
  digest : wellFormedDigest r.recordDigest = true

theorem SafeguardDispatchEvidenceRecord.preRelease (r : SafeguardDispatchEvidenceRecord)
    (state : r.val.state = .preRelease) :
    ∃ start observation checkpoint, PreReleaseEvidence r.val start observation checkpoint := by
  have checked := r.property
  simp only [DispatchEvidenceFields.check, DispatchEvidenceFields.validateShape, state,
    check_bind_eq_ok, validate_cons_eq_ok, Bool.and_eq_true, decide_eq_true_eq,
    dispatchDigest, Option.isSome_iff_exists, Option.any_eq_true] at checked
  obtain ⟨⟨revision, -⟩, ⟨⟨⟨⟨start, started⟩, observation, observed⟩, checkpoint, checked, -⟩, -⟩,
    digest, -⟩ := checked
  exact ⟨start, observation, checkpoint, started, observed, checked, revision, digest⟩

/-- The times of a release receipt are in order. -/
structure ReleaseReceiptFields.Sound (r : ReleaseReceiptFields) : Prop where
  attestation : wellFormedDigest r.providerAttestationDigest = true
  known : r.state ≠ .unknown → r.observedAt.isSome = true
  observed : ∀ observed ∈ r.observedAt, observed ≤ r.recordedAt

theorem ResourceLockReleaseReceipt.sound (r : ResourceLockReleaseReceipt) : r.val.Sound := by
  have checked := r.property
  simp only [ReleaseReceiptFields.check, validate_cons_eq_ok, Bool.or_eq_true, Bool.and_eq_true,
    Bool.not_eq_true', Bool.or_eq_false_iff, decide_eq_true_eq, decide_eq_false_iff_not,
    Option.all_eq_true] at checked
  obtain ⟨attestation, known, observed, -⟩ := checked
  refine ⟨attestation, ?_, fun time present => (observed time present).2⟩
  intro isKnown
  rcases known with ⟨notReleased, notLost⟩ | present
  · cases state : r.val.state with
    | released => exact absurd state notReleased
    | lost => exact absurd state notLost
    | unknown => exact absurd state isKnown
  · exact present

end Fdai.Core
