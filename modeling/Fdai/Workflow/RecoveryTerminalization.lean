import Fdai.Workflow.RecoveryAttempt

/-!
# Releasing the hold and terminalizing

The end of the recovery path. The hold is released against one completion claim, a
*lookup* records that release, and the process is terminalized with an event that is bound
to all of it. Two outbox records, staged before that event and delivered after it, let a
later pass repeat what a crash cut off.
-/

namespace Fdai.Core

open Fdai.Providers Fdai.Concurrency

/-- `consumed_release_instant`: when the release consumed this claim, if the hold on record
still proves it. -/
def consumedReleaseInstant (lookup : ReleaseReceiptLookup) (effectClaim : EffectCompletionClaim) :
    Flow (Option Instant) := do
  let record : Option HoldRecord ← Flow.read .hold
  pure (record.bind fun record =>
    if record.state ≠ .released then none
    else match record.releaseReceipt with
      | none => none
      | some receipt =>
        if receipt.receiptDigest ≠ lookup.releaseReceiptDigest ∨
            receipt.releasedHoldRevision ≠ lookup.holdRevision ∨ record.owner ≠ .process ∨
            record.fencingGeneration ≠ some (lookup.holdRevision + 1) ∨
            record.revision ≠ lookup.holdRevision + 1 then none
        else if record.consumedRecoveryAdmissionDigest ≠ some effectClaim.admissionDigest then
          none
        else if receipt.releasedAt < effectClaim.validityStart then none
        else some receipt.releasedAt)

section

variable (attempt : RecoveryAttemptIdentity) (effectClaim : EffectCompletionClaim)

/-- `release`: under an admission that is assessed again. -/
def release (approval : WorkflowApprovalSnapshot) (holdRevision : ℕ)
    (receiptDigests : List String) : Flow (Option ReleaseReceipt) := do
  match ← assessAdmission approval holdRevision with
  | .error _ => pure none
  | .ok admissionDigest =>
    if admissionDigest ≠ effectClaim.admissionDigest then pure none
    else releaseAdmitted attempt holdRevision approval receiptDigests admissionDigest

def lookupKey (holdRevision : ℕ) : StateKey :=
  .lookup attempt.identityDigest effectClaim.claimDigest holdRevision

def storeReleaseLookup (holdRevision : ℕ) (releaseReceiptDigest : Digest) : Flow Unit := do
  let lookup : ReleaseReceiptLookup :=
    { recoveryAttemptDigest := attempt.identityDigest
      effectClaimDigest := effectClaim.claimDigest
      holdRevision
      releaseReceiptDigest }
  let _ ← Flow.writeIfAbsent (lookupKey attempt effectClaim holdRevision) lookup
  pure ()

def readReleaseLookup (holdRevision : ℕ) : Flow (Option ReleaseReceiptLookup) :=
  Flow.read (lookupKey attempt effectClaim holdRevision)

end

def RecoveryCompletion.payloadDigest (completion : RecoveryCompletion) : DeliveryKind → Digest
  | .processEvent => completion.terminalEventDigest
  | .sagaAudit => completion.auditPayloadDigest

/-- The deliveries of a completion, in order. -/
def deliveryKinds : List DeliveryKind := [.processEvent, .sagaAudit]

def stageDeliveries (completion : RecoveryCompletion) : List DeliveryKind → Flow Unit
  | [] => pure ()
  | kind :: rest => do
    let record : OutboxRecord := { payloadDigest := completion.payloadDigest kind }
    let _ ← Flow.writeIfAbsent (.outbox completion.completionDigest kind) record
    stageDeliveries completion rest

def stageOutbox (completion : RecoveryCompletion) : Flow Unit :=
  stageDeliveries completion deliveryKinds

def deliveredRecord (stored : OutboxRecord) : OutboxRecord :=
  { stored with
    delivered := true
    attemptCount := stored.attemptCount + 1
    revision := stored.revision + 1 }

/-- Deliver one entry, if it is pending. -/
def drainDelivery (completion : RecoveryCompletion) (kind : DeliveryKind) : Flow Unit := do
  match ← Flow.read (.outbox completion.completionDigest kind) with
  | none => pure ()
  | some stored =>
    let stored : OutboxRecord := stored
    if stored.delivered then pure ()
    else do
      if kind = .sagaAudit then Flow.audit "workflow.recovery.completed" else pure ()
      let _ ← Flow.compareAndSet (.outbox completion.completionDigest kind)
        (deliveredRecord stored) stored.revision
      pure ()

def drainOutbox (completion : RecoveryCompletion) : Flow Unit := do
  drainDelivery completion .processEvent
  drainDelivery completion .sagaAudit

/-! ## The terminal commit -/

/-- What the last completion event of a journal keeps. -/
def committedRecovery (events : List ProcessEvent) : Option RecoveryPayload :=
  events.reverse.findSome? fun event =>
    if event.kind = .recoveryCompleted then event.payload.recovery else none

def committedCompletionDigest : Flow (Option Digest) := do
  let events ← Flow.events .plain
  pure ((committedRecovery events).map (·.completionDigest))

/-- `_committed_completion`, for the digest the last completion event keeps. -/
def committedCompletion (completionDigest : Digest) : Flow (Option RecoveryCompletion) := do
  let events ← Flow.events .plain
  let event := events.reverse.find? fun event => event.kind = .recoveryCompleted ∧
    event.payload.recovery.any (·.completionDigest = completionDigest)
  match event.bind (·.payload.recovery) with
  | none => pure none
  | some kept => do
    let snapshot : Option ProcessSnapshot ← Flow.ask (.getProcess .plain)
    pure (snapshot.map fun snapshot =>
      { expectedProcessRevision := snapshot.revision - 1
        recoveryAttemptDigest := kept.recoveryAttemptDigest
        effectClaimGeneration := kept.effectClaimGeneration
        effectClaimDigest := kept.effectClaimDigest
        releaseReceiptDigest := kept.releaseReceiptDigest
        terminalEventDigest := kept.terminalEventDigest
        auditPayloadDigest := kept.auditPayloadDigest })

/-- What a terminal commit is bound to, at a revision of the process. -/
def completionOf (attempt : RecoveryAttemptIdentity) (effectClaim : EffectCompletionClaim)
    (releaseReceiptDigest : Digest) (expectedProcessRevision : ℕ) : RecoveryCompletion :=
  { expectedProcessRevision
    recoveryAttemptDigest := attempt.identityDigest
    effectClaimGeneration := effectClaim.generation
    effectClaimDigest := effectClaim.claimDigest
    releaseReceiptDigest
    terminalEventDigest := .ofFields [.text "workflow-recovery-terminal-event",
      attempt.identityDigest, effectClaim.claimDigest]
    auditPayloadDigest := .ofFields [.text "workflow-recovery-saga-audit",
      releaseReceiptDigest, effectClaim.claimDigest] }

/-- `validate_terminal_preconditions`: the reasons against a terminal commit, each once and
in alphabetical order. -/
def terminalRejections (claim : EffectCompletionClaim) (completion : RecoveryCompletion)
    (holdRevision fencingGeneration processRevision : ℕ) (expectedCompletionDigest : Digest)
    (releaseReceiptDigest : Digest) (committedDigest : Option Digest) (now : Instant) :
    List String :=
  let matchesClaim : Bool :=
    completion.recoveryAttemptDigest = claim.attemptIdentityDigest ∧
      completion.effectClaimGeneration = claim.generation ∧
      completion.effectClaimDigest = claim.claimDigest
  let reasons : List (Bool × String) :=
    [(!claim.isCurrentSuccess now, "claim_not_current_success"),
      (decide (claim.validityEnd ≤ now), "claim_expired"),
      (claim.supersededBy.isSome, "claim_revoked"),
      (claim.holdRevision ≠ holdRevision, "hold_revision_mismatch"),
      (completion.expectedProcessRevision ≠ processRevision, "process_revision_conflict"),
      (completion.completionDigest ≠ expectedCompletionDigest || !matchesClaim,
        "completion_digest_mismatch"),
      (fencingGeneration ≠ holdRevision + 1, "fencing_generation_mismatch"),
      (releaseReceiptDigest ≠ completion.releaseReceiptDigest, "completion_digest_mismatch"),
      (committedDigest.isSome, "already_terminal"),
      (committedDigest.any (· ≠ expectedCompletionDigest), "completion_digest_mismatch")]
  (((reasons.filter (·.1)).map (·.2)).dedup).insertionSort (· ≤ ·)

/-- The event of a terminal commit. -/
def recoveryCompletedEvent (completion : RecoveryCompletion) (recordedAt : Instant) :
    ProcessEvent :=
  { eventId := .recoveryCompleted completion.completionDigest
    kind := .recoveryCompleted
    idempotencyKey := .event (.recoveryCompleted completion.completionDigest)
    recordedAt
    payload :=
      { recovery := some
          { completionDigest := completion.completionDigest
            recoveryAttemptDigest := completion.recoveryAttemptDigest
            effectClaimDigest := completion.effectClaimDigest
            effectClaimGeneration := completion.effectClaimGeneration
            releaseReceiptDigest := completion.releaseReceiptDigest
            terminalEventDigest := completion.terminalEventDigest
            auditPayloadDigest := completion.auditPayloadDigest } } }

/-- `_append_terminal`: a revision conflict is an answer, other errors are raised. -/
def appendTerminal (completion : RecoveryCompletion) (holdRevision : ℕ) :
    Flow (Option ProcessSnapshot) := do
  let recordedAt ← Flow.now
  match ← Flow.ask (.transition completion.expectedProcessRevision .compensated ""
    (recoveryCompletedEvent completion recordedAt) holdRevision) with
  | .ok snapshot => pure (some snapshot)
  | .error .revisionConflict => pure none
  | .error e => Program.raise (.store e)

/-- The result of a pass that ends with a completion on record. -/
def completedResult (disposition : RecoveryDisposition) (attempt : RecoveryAttemptIdentity)
    (effectClaim : EffectCompletionClaim) (completion : RecoveryCompletion) :
    RecoveryCoordinationResult :=
  { disposition
    attemptIdentityDigest := some attempt.identityDigest
    effectClaimDigest := some effectClaim.claimDigest
    releaseReceiptDigest := some completion.releaseReceiptDigest
    completionDigest := some completion.completionDigest }

section

variable (attempt : RecoveryAttemptIdentity) (effectClaim : EffectCompletionClaim)

/-- Terminalize, once nothing speaks against it. -/
def commitCompletion (completion : RecoveryCompletion) (holdRevision : ℕ) :
    Flow RecoveryCoordinationResult := do
  stageOutbox completion
  match ← appendTerminal completion holdRevision with
  | none => reject "process_revision_conflict" attempt none .effectUnverified
  | some _ => do
    drainOutbox completion
    pure (completedResult .completed attempt effectClaim completion)

/-- The revision a terminal commit expects: the one before a commit on record. -/
def expectedRevision (current : ProcessSnapshot) (committed : Option Digest) : ℕ :=
  if committed.isNone then current.revision else current.revision - 1

def commitTerminal (snapshot : ProcessSnapshot) (releaseReceiptDigest : Digest)
    (holdRevision : ℕ) (evaluatedAt : Option Instant) : Flow RecoveryCoordinationResult := do
  let found : Option ProcessSnapshot ← Flow.ask (.getProcess .plain)
  let current := found.getD snapshot
  let committed ← committedCompletionDigest
  let revision := expectedRevision current committed
  let completion := completionOf attempt effectClaim releaseReceiptDigest revision
  if committed = some completion.completionDigest then do
    drainOutbox completion
    pure (completedResult .replayed attempt effectClaim completion)
  else do
    let now ← evaluatedAt.elim Flow.now pure
    match terminalRejections effectClaim completion holdRevision (holdRevision + 1) revision
      completion.completionDigest releaseReceiptDigest committed now with
    | reason :: _ => reject reason attempt none .effectUnverified
    | [] => commitCompletion attempt effectClaim completion holdRevision

def terminalize (snapshot : ProcessSnapshot) (claim : RecoveryPreDispatchClaim)
    (approval : WorkflowApprovalSnapshot) (holdRevision : ℕ) (receiptDigests : List String) :
    Flow RecoveryCoordinationResult := do
  match ← readReleaseLookup attempt effectClaim holdRevision with
  | some lookup =>
    commitTerminal attempt effectClaim snapshot lookup.releaseReceiptDigest holdRevision none
  | none => do
    match ← release attempt effectClaim approval holdRevision receiptDigests with
    | none => reject "safeguard_denied" attempt claim
    | some receipt => do
      storeReleaseLookup attempt effectClaim holdRevision receipt.receiptDigest
      commitTerminal attempt effectClaim snapshot receipt.receiptDigest holdRevision none

/-- `heal_committed`: repeat the deliveries of a completion that is on record. -/
def healCommitted : Flow (Option RecoveryCoordinationResult) := do
  match ← committedCompletionDigest with
  | none => pure none
  | some committed => do
    let lookup : Option ReleaseReceiptLookup ← Flow.ask (.findLookup attempt.identityDigest)
    let effectClaim ← readCurrentClaim attempt
    match ← committedCompletion committed with
    | some completion => drainOutbox completion
    | none => pure ()
    pure (some
      { disposition := .replayed
        attemptIdentityDigest := some attempt.identityDigest
        effectClaimDigest := effectClaim.map (·.claimDigest)
        releaseReceiptDigest := lookup.map (·.releaseReceiptDigest)
        completionDigest := some committed })

end

end Fdai.Core
