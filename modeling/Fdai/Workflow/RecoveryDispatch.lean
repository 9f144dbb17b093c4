import Fdai.Workflow.StepExecutor

/-!
# Claiming and dispatching a recovery

A recovery attempt at one hold revision is claimed once, by a record that is written if
absent. Whoever has the claim may try to dispatch: it acquires the in-flight lease of the
record, invokes the provider or reconciles with it, and records what that came to.
-/

namespace Fdai.Core

open Fdai.Providers Fdai.Concurrency

def claimKey (attempt : RecoveryAttemptIdentity) (holdRevision : ℕ) : StateKey :=
  .claim attempt.identityDigest holdRevision

def claimOnce (attempt : RecoveryAttemptIdentity) (holdRevision : ℕ) :
    Flow (Option RecoveryPreDispatchClaim) := do
  match ← Flow.read (claimKey attempt holdRevision) with
  | some existing => pure (claimFromRecord existing attempt holdRevision)
  | none => do
    let claimedAt ← Flow.now
    let claim : RecoveryPreDispatchClaim :=
      { attemptIdentityDigest := attempt.identityDigest
        holdRevision
        claimRevision := 1
        idempotencyKey := attempt.idempotencyKey
        claimedAt }
    let record : ClaimRecord := { claim }
    let created ← Flow.writeIfAbsent (claimKey attempt holdRevision) record
    if created then pure (some claim)
    else
      match ← Flow.read (claimKey attempt holdRevision) with
      | none => pure none
      | some stored => pure (claimFromRecord stored attempt holdRevision)

/-- `RecoveryDispatchResult.create` with no receipt. -/
def unreceipted (claim : RecoveryPreDispatchClaim) (attempt : RecoveryAttemptIdentity)
    (outcome : RecoveryDispatchOutcome) (recordedAt : Instant) : RecoveryDispatchResult :=
  { attemptIdentityDigest := attempt.identityDigest
    claimDigest := claim.claimDigest
    outcome
    providerReceiptDigest := none
    recordedAt }

/-- Proof that a caller owns the in-flight lease. -/
structure InFlightLease where
  owner : Token
  tookOver : Bool

section

variable (replica : ℕ) (config : RecoveryCoordinatorConfig)
  (attempt : RecoveryAttemptIdentity) (claim : RecoveryPreDispatchClaim)

def leaseRecord (record : ClaimRecord) (owner : Token) (expiresAt : Instant) : ClaimRecord :=
  { record with
    dispatchState := .inFlight
    inFlightOwner := some owner
    inFlightExpiresAt := some expiresAt
    revision := record.revision + 1 }

def resolvedRecord (record : ClaimRecord) (result : RecoveryDispatchResult) : ClaimRecord :=
  { record with
    dispatchState := .resolved
    inFlightOwner := none
    inFlightExpiresAt := none
    dispatchOutcome := result.outcome
    providerReceiptDigest := result.providerReceiptDigest
    dispatchResultDigest := some result.resultDigest
    dispatchRecordedAt := some result.recordedAt
    revision := record.revision + 1 }

/-- `_acquire_in_flight`: at most `rounds` attempts on a changing record; `first` is the
one that was read first. -/
def acquireInFlight (first : Option ClaimRecord) :
    ℕ → Option ClaimRecord → Flow (Option InFlightLease)
  | 0, _ => pure none
  | _ + 1, none => pure none
  | rounds + 1, some record =>
    if record.dispatchOutcome = .dispatched then pure none
    else do
      let now ← Flow.now
      if record.dispatchState = .inFlight ∧ ¬ record.inFlightExpiresAt.any (· ≤ now) then
        pure none
      else do
        let owner ← Flow.ask (.newToken replica)
        let acquired ← Flow.compareAndSet (claimKey attempt claim.holdRevision)
          (leaseRecord record owner (now + config.dispatchLease)) record.revision
          (.acquiring replica owner first)
        if acquired then pure (some ⟨owner, record.dispatchState = .inFlight⟩)
        else do
          let again ← Flow.read (claimKey attempt claim.holdRevision)
          acquireInFlight first rounds again

def reconcile : Flow (Option RecoveryDispatchResult) := do
  match ← Flow.ask (.reconcileRecovery attempt claim) with
  | .ok reconciled => pure reconciled
  | .error _ => pure none

/-- `_record_dispatch`: at most `rounds` attempts on a changing record. -/
def recordDispatch (result : RecoveryDispatchResult) (owner : Token) (reread : Bool) : ℕ → Flow Unit
  | 0 => pure ()
  | rounds + 1 => do
    match ← Flow.read (claimKey attempt claim.holdRevision) with
    | none => pure ()
    | some stored =>
      let stored : ClaimRecord := stored
      if stored.dispatchOutcome = .dispatched ∧ stored.inFlightOwner ≠ some owner then pure ()
      else do
        let committed ← Flow.compareAndSet (claimKey attempt claim.holdRevision)
          (resolvedRecord stored result) stored.revision (.recording owner reread)
        if committed then pure () else recordDispatch result owner reread rounds

/-- Have the provider dispatch; an exception leaves the dispatch in doubt. -/
def invokeProvider (owner : Token) : Flow RecoveryDispatchResult := do
  match ← Flow.ask (.dispatchRecovery attempt claim owner) with
  | .ok result => pure result
  | .error _ => do
    let recordedAt ← Flow.now
    pure (unreceipted claim attempt .inDoubt recordedAt)

def dispatchOnce : Flow RecoveryDispatchResult := do
  let stored ← Flow.read (claimKey attempt claim.holdRevision)
  let recorded := dispatchFromRecord stored claim
  match recorded.filter (·.outcome = .dispatched) with
  | some result => pure result
  | none =>
    if !config.dispatcher then do
      let recordedAt ← Flow.now
      pure (unreceipted claim attempt .notInvoked recordedAt)
    else do
      match ← acquireInFlight replica config attempt claim stored 3 stored with
      | none => do
        let recordedAt ← Flow.now
        pure (unreceipted claim attempt .inDoubt recordedAt)
      | some lease =>
        let unresolved := recorded.any (·.outcome = .inDoubt)
        if unresolved || lease.tookOver then do
          match ← reconcile attempt claim with
          | some result => do
            recordDispatch attempt claim result lease.owner false 3
            pure result
          | none =>
            match recorded with
            | some result => do
              recordDispatch attempt claim result lease.owner true 3
              pure result
            | none => do
              let recordedAt ← Flow.now
              let result := unreceipted claim attempt .inDoubt recordedAt
              recordDispatch attempt claim result lease.owner false 3
              pure result
        else do
          let result ← invokeProvider attempt claim lease.owner
          recordDispatch attempt claim result lease.owner false 3
          pure result

end

end Fdai.Core
