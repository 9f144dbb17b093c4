import Fdai.Executor.IdempotencyReservation

/-!
# Target dispatch fences

The durable record that serialises the mutations of one target: which generation holds it,
and how far that generation got.

* `TargetDispatchFenceRecord` — a record carries what its constructor checks.
* `validateFenceTransition` — which record may replace which.
* `createPreparing`, `attachPreparedEvidence`, …, `closeAfterRelease` — the builders.
-/

namespace Fdai.Core

open Fdai.Providers (Digest)

/-- How far a generation got. -/
inductive TargetDispatchFenceState where
  | preparing | prepared | inFlight | releasePending | resolved | quarantined
  deriving DecidableEq

def TargetDispatchFenceState.value : TargetDispatchFenceState → String
  | .preparing => "preparing"
  | .prepared => "prepared"
  | .inFlight => "in_flight"
  | .releasePending => "release_pending"
  | .resolved => "resolved"
  | .quarantined => "quarantined"

/-- The target, attempt, policy and sink correlation of one generation. The continuity
strategy is always quarantined reconciliation. -/
structure TargetDispatchFenceIdentity where
  targetDigest : Digest
  reservationIdentityDigest : Digest
  reservationAttempt : ℕ
  acquisitionReceiptDigest : Digest
  acquisitionAcquiredAt : ℤ
  continuityPolicyDigest : Digest
  generation : ℕ
  clientCorrelationId : String
  sinkIdempotencyKey : String
  target_wellFormed : wellFormedDigest targetDigest = true
  reservation_wellFormed : wellFormedDigest reservationIdentityDigest = true
  attempt_pos : 1 ≤ reservationAttempt
  acquisition_wellFormed : wellFormedDigest acquisitionReceiptDigest = true
  policy_wellFormed : wellFormedDigest continuityPolicyDigest = true
  generation_pos : 1 ≤ generation
  correlation_canonical : canonicalText clientCorrelationId = true
  key_canonical : canonicalText sinkIdempotencyKey = true

instance : DecidableEq TargetDispatchFenceIdentity :=
  (show Function.Injective fun i : TargetDispatchFenceIdentity => ([i.targetDigest,
    i.reservationIdentityDigest, i.acquisitionReceiptDigest, i.continuityPolicyDigest],
    [i.reservationAttempt, i.generation], i.acquisitionAcquiredAt,
    [i.clientCorrelationId, i.sinkIdempotencyKey]) from
    fun a b same => by cases a; cases b; simp_all).decidableEq

def TargetDispatchFenceIdentity.identityDigest (i : TargetDispatchFenceIdentity) : Digest :=
  .ofFields [.text "target-dispatch-fence-identity", i.targetDigest,
    i.reservationIdentityDigest, .num i.reservationAttempt, i.acquisitionReceiptDigest,
    instantDigest i.acquisitionAcquiredAt, i.continuityPolicyDigest, .num i.generation,
    .text i.clientCorrelationId, .text i.sinkIdempotencyKey]

structure FenceFields where
  identity : TargetDispatchFenceIdentity
  state : TargetDispatchFenceState
  revision : ℕ
  priorRecordDigest : Option Digest
  auditAppendReceiptDigest : Option Digest := none
  safeguardBundleDigest : Option Digest := none
  stateChangedAt : ℤ
  noDispatchEvidenceDigest : Option Digest := none
  resolutionEvidenceDigest : Option Digest := none

namespace FenceFields

variable (r : FenceFields)

/-- The audit receipt and the safeguard bundle are both attached. -/
def hasPrerequisites : Bool :=
  r.auditAppendReceiptDigest.isSome && r.safeguardBundleDigest.isSome

/-- `_validate_record_shape`. -/
def validateShape : Except String Unit := do
  validate [(r.auditAppendReceiptDigest.isNone = r.safeguardBundleDigest.isNone,
      "target dispatch fence prerequisites are partial")]
  match r.state with
  | .preparing =>
    validate [(!r.hasPrerequisites && r.noDispatchEvidenceDigest.isNone &&
        r.resolutionEvidenceDigest.isNone, "preparing target dispatch fence shape is invalid")]
  | .prepared | .inFlight | .releasePending =>
    validate [(r.hasPrerequisites && r.noDispatchEvidenceDigest.isNone &&
        r.resolutionEvidenceDigest.isNone, "active target dispatch fence shape is invalid")]
  | .quarantined =>
    validate [(r.hasPrerequisites && r.resolutionEvidenceDigest.isSome,
        "quarantined target dispatch fence requires terminal evidence")]
  | .resolved =>
    if r.noDispatchEvidenceDigest.isNone then
      validate [(r.hasPrerequisites && r.resolutionEvidenceDigest.isSome,
          "resolved target dispatch fence requires closure evidence")]
    else
      validate [(!r.hasPrerequisites, "no-dispatch closure cannot retain prepared prerequisites")]

/-- A digest field of a record. -/
def digestField (name : String) (digest : Option Digest) : Bool × String :=
  (digest.all wellFormedDigest, "target dispatch fence " ++ name ++ " MUST be SHA-256")

/-- The checks of the record constructor. -/
def check : Except String Unit := do
  validate [(1 ≤ r.revision, "target dispatch fence revision MUST be positive"),
      (r.revision ≠ 1 || r.priorRecordDigest.isNone,
        "initial target dispatch fence MUST NOT have a predecessor"),
      (r.revision = 1 || r.priorRecordDigest.isSome,
        "target dispatch fence transition requires predecessor digest"),
      digestField "prior_record_digest" r.priorRecordDigest,
      digestField "audit_append_receipt_digest" r.auditAppendReceiptDigest,
      digestField "safeguard_bundle_digest" r.safeguardBundleDigest,
      digestField "no_dispatch_evidence_digest" r.noDispatchEvidenceDigest,
      digestField "resolution_evidence_digest" r.resolutionEvidenceDigest,
      (r.identity.acquisitionAcquiredAt ≤ r.stateChangedAt,
        "target dispatch fence predates lock acquisition")]
  r.validateShape

end FenceFields

/-- The current record of a target. -/
structure TargetDispatchFenceRecord extends FenceFields where
  /-- The fields pass the checks of the constructor. -/
  valid : toFenceFields.check = .ok ()

/-- `_build_record`. -/
def buildFence (fields : FenceFields) : Except String TargetDispatchFenceRecord :=
  match valid : fields.check with
  | .ok () => .ok { fields with valid }
  | .error message => .error message

def TargetDispatchFenceRecord.recordDigest (r : TargetDispatchFenceRecord) : Digest :=
  .ofFields [.text "target-dispatch-fence-record", r.identity.identityDigest,
    .text r.state.value, .num r.revision, absentOrDigest r.priorRecordDigest,
    absentOrDigest r.auditAppendReceiptDigest, absentOrDigest r.safeguardBundleDigest,
    instantDigest r.stateChangedAt, absentOrDigest r.noDispatchEvidenceDigest,
    absentOrDigest r.resolutionEvidenceDigest]

/-- The generation of a record. -/
def FenceFields.generation (r : FenceFields) : ℕ := r.identity.generation

/-- The states that may follow a state in the same generation. -/
def TargetDispatchFenceState.legalEdges : TargetDispatchFenceState → List TargetDispatchFenceState
  | .preparing => [.prepared, .resolved]
  | .prepared => [.inFlight, .resolved]
  | .inFlight => [.releasePending, .resolved]
  | .releasePending => [.resolved, .quarantined]
  | .quarantined => [.resolved]
  | .resolved => []

def TargetDispatchFenceState.beforeRelease (state : TargetDispatchFenceState) : Bool :=
  state = .preparing || state = .prepared || state = .inFlight

def validateTransitionEvidence (prior current : FenceFields) : Except String Unit :=
  if prior.state.beforeRelease && current.state = .resolved then validate
    [(current.noDispatchEvidenceDigest.isSome && current.auditAppendReceiptDigest.isNone &&
        current.safeguardBundleDigest.isNone && current.resolutionEvidenceDigest.isNone,
      "target dispatch fence pre-dispatch closure evidence is invalid")]
  else if current.state = .prepared then validate
    [(prior.auditAppendReceiptDigest.isNone && prior.safeguardBundleDigest.isNone &&
        current.auditAppendReceiptDigest.isSome && current.safeguardBundleDigest.isSome,
      "target dispatch fence prepared evidence transition is invalid")]
  else if current.noDispatchEvidenceDigest.isSome then validate
    [(current.state = .resolved && (prior.state = .preparing || prior.state = .prepared) &&
        current.auditAppendReceiptDigest.isNone && current.safeguardBundleDigest.isNone &&
        current.resolutionEvidenceDigest.isNone,
      "target dispatch fence no-dispatch evidence transition is invalid")]
  else do
    validate [(prior.state = .preparing || prior.state = .resolved ||
          (current.auditAppendReceiptDigest = prior.auditAppendReceiptDigest &&
            current.safeguardBundleDigest = prior.safeguardBundleDigest),
          "target dispatch fence prepared evidence was rewritten"),
        (prior.state ≠ .quarantined || current.state ≠ .resolved ||
          current.resolutionEvidenceDigest ≠ prior.resolutionEvidenceDigest,
          "target dispatch fence reconciliation evidence is not fresh")]
    if current.state = .inFlight || current.state = .releasePending then
      validate [(current.noDispatchEvidenceDigest.isNone && current.resolutionEvidenceDigest.isNone,
          "active target dispatch fence contains terminal evidence")]
    else
      validate [(!(current.state = .resolved || current.state = .quarantined) ||
          current.resolutionEvidenceDigest.isSome,
          "terminal target dispatch fence lacks resolution evidence")]

/-- `_validate_transition`. -/
def validateFenceTransition (prior current : TargetDispatchFenceRecord) : Except String Unit :=
  if prior.state = .resolved && current.state = .preparing then validate
    [(current.revision = prior.revision + 1 &&
        current.priorRecordDigest = some prior.recordDigest &&
        current.identity.targetDigest = prior.identity.targetDigest &&
        current.generation = prior.generation + 1 &&
        prior.stateChangedAt < current.identity.acquisitionAcquiredAt &&
        current.identity.reservationIdentityDigest ≠ prior.identity.reservationIdentityDigest &&
        prior.stateChangedAt ≤ current.stateChangedAt,
      "target dispatch fence generation advance is invalid")]
  else do
    validate [(current.identity = prior.identity && current.revision = prior.revision + 1 &&
          current.priorRecordDigest = some prior.recordDigest &&
          prior.stateChangedAt ≤ current.stateChangedAt,
          "target dispatch fence predecessor mismatched"),
        (current.state ∈ prior.state.legalEdges,
          "target dispatch fence transition edge is invalid")]
    validateTransitionEvidence prior.toFenceFields current.toFenceFields

/-! ## Builders -/

/-- `_utc` of this module. -/
def fenceUtc (name : String) (value : Datetime) : Except String ℤ :=
  utc "target dispatch fence" name value

/-- `_validate_digest`, as a check. -/
def fenceDigest (name : String) (digest : Digest) : Bool × String :=
  (wellFormedDigest digest, "target dispatch fence " ++ name ++ " MUST be SHA-256")

def createPreparing (identity : TargetDispatchFenceIdentity) (changedAt : Datetime)
    (priorResolved : Option TargetDispatchFenceRecord) :
    Except String TargetDispatchFenceRecord :=
  match priorResolved with
  | none => do
    validate [(identity.generation = 1, "initial target dispatch fence generation MUST be one")]
    let stateChangedAt ← fenceUtc "changed_at" changedAt
    buildFence
      { identity, state := .preparing, revision := 1, priorRecordDigest := none
        stateChangedAt }
  | some prior => do
    validate [(prior.state = .resolved,
          "new target dispatch generation requires resolved predecessor"),
        (prior.identity.targetDigest = identity.targetDigest,
          "new target dispatch generation changes target"),
        (identity.generation = prior.generation + 1,
          "target dispatch fence generation MUST increase by one"),
        (prior.stateChangedAt < identity.acquisitionAcquiredAt &&
          identity.reservationIdentityDigest ≠ prior.identity.reservationIdentityDigest,
          "new target dispatch requires a later acquisition")]
    let stateChangedAt ← fenceUtc "changed_at" changedAt
    buildFence
      { identity, state := .preparing, revision := prior.revision + 1
        priorRecordDigest := some prior.recordDigest, stateChangedAt }

/-- The evidence a builder hands to `_next_record`. -/
structure NextEvidence where
  auditAppendReceiptDigest : Option Digest := none
  safeguardBundleDigest : Option Digest := none
  noDispatchEvidenceDigest : Option Digest := none
  resolutionEvidenceDigest : Option Digest := none
  clearPreparedEvidence : Bool := false

/-- The fields `_next_record` fills in. -/
def nextFields (r : TargetDispatchFenceRecord) (state : TargetDispatchFenceState)
    (stateChangedAt : ℤ) (e : NextEvidence) : FenceFields where
  identity := r.identity
  state
  revision := r.revision + 1
  priorRecordDigest := some r.recordDigest
  auditAppendReceiptDigest :=
    if e.clearPreparedEvidence then none
    else e.auditAppendReceiptDigest.or r.auditAppendReceiptDigest
  safeguardBundleDigest :=
    if e.clearPreparedEvidence then none
    else e.safeguardBundleDigest.or r.safeguardBundleDigest
  stateChangedAt
  noDispatchEvidenceDigest := e.noDispatchEvidenceDigest
  resolutionEvidenceDigest := e.resolutionEvidenceDigest

def nextRecord (r : TargetDispatchFenceRecord) (state : TargetDispatchFenceState)
    (changedAt : Datetime) (e : NextEvidence) : Except String TargetDispatchFenceRecord := do
  let normalizedAt ← fenceUtc "changed_at" changedAt
  validate [(r.stateChangedAt ≤ normalizedAt, "target dispatch fence transition is backdated")]
  buildFence (nextFields r state normalizedAt e)

/-- What `attach_prepared_evidence` reads of an audit receipt. -/
structure AuditIntentAppendReceipt where
  reservationIdentityDigest : Digest
  readBackAt : ℤ
  receiptDigest : Digest

def attachPreparedEvidence (r : TargetDispatchFenceRecord) (receipt : AuditIntentAppendReceipt)
    (safeguardBundleDigest : Digest) (changedAt : Datetime) :
    Except String TargetDispatchFenceRecord := do
  validate [(r.state = .preparing, "target dispatch fence is not preparing"),
      (receipt.reservationIdentityDigest = r.identity.reservationIdentityDigest,
        "target dispatch fence audit evidence changed reservation")]
  let normalizedAt ← fenceUtc "changed_at" changedAt
  validate
    [(receipt.readBackAt ≤ normalizedAt, "target dispatch fence prepared before audit readback"),
      fenceDigest "safeguard_bundle_digest" safeguardBundleDigest]
  nextRecord r .prepared (.aware normalizedAt)
    { auditAppendReceiptDigest := some receipt.receiptDigest
      safeguardBundleDigest := some safeguardBundleDigest }

/-- `mark_target_fence_in_flight`. -/
def markInFlight (r : TargetDispatchFenceRecord) (changedAt : Datetime) :
    Except String TargetDispatchFenceRecord := do
  validate [(r.state = .prepared, "target dispatch fence is not prepared")]
  nextRecord r .inFlight changedAt {}

/-- `mark_target_fence_release_pending`. -/
def markReleasePending (r : TargetDispatchFenceRecord) (changedAt : Datetime) :
    Except String TargetDispatchFenceRecord := do
  validate [(r.state = .inFlight, "target dispatch fence is not in flight")]
  nextRecord r .releasePending changedAt {}

/-- `resolve_target_fence_without_dispatch`. -/
def resolveWithoutDispatch (r : TargetDispatchFenceRecord) (noDispatchEvidenceDigest : Digest)
    (changedAt : Datetime) : Except String TargetDispatchFenceRecord := do
  validate [(r.state.beforeRelease, "target dispatch fence cannot resolve as undispatched"),
      fenceDigest "no_dispatch_evidence_digest" noDispatchEvidenceDigest]
  nextRecord r .resolved changedAt
    { noDispatchEvidenceDigest := some noDispatchEvidenceDigest, clearPreparedEvidence := true }

/-- `close_target_fence_after_release`. -/
def closeAfterRelease (r : TargetDispatchFenceRecord) (quarantined : Bool)
    (resolutionEvidenceDigest : Digest) (changedAt : Datetime) :
    Except String TargetDispatchFenceRecord := do
  validate [(r.state = .releasePending || r.state = .quarantined,
        "target dispatch fence is not terminalizable"),
      (!(r.state = .quarantined && quarantined),
        "quarantined target dispatch fence requires resolution"),
      fenceDigest "resolution_evidence_digest" resolutionEvidenceDigest,
      (!(r.state = .quarantined && some resolutionEvidenceDigest = r.resolutionEvidenceDigest),
        "quarantined target dispatch fence requires fresh reconciliation evidence")]
  nextRecord r (if quarantined then .quarantined else .resolved) changedAt
    { resolutionEvidenceDigest := some resolutionEvidenceDigest }

end Fdai.Core
