import Fdai.Workflow.RecoveryTerminalization

/-!
# The recovery coordinator

The order of the recovery path: bind an attempt, claim and dispatch it, claim its effect,
release the hold, terminalize. `heal` takes up a recovery that released the hold and was
cut off before the process was terminalized.
-/

namespace Fdai.Core

open Fdai.Providers Fdai.Concurrency

/-- What a recovery is asked to recover. -/
structure RecoveryRequest where
  failedCompensationProposalDigest : Digest
  recoveryActionType : String
  recoveryParams : Params
  compensationReceiptDigests : List String

section

variable (replica : ℕ) (config : RecoveryCoordinatorConfig) (snapshot : ProcessSnapshot)

/-- From an effect that may be claimed to the end. -/
def recoverEffect (request : RecoveryRequest) (attempt : RecoveryAttemptIdentity)
    (claim : RecoveryPreDispatchClaim) (approval : WorkflowApprovalSnapshot)
    (holdRevision : ℕ) (providerReceiptDigest : String) : Flow RecoveryCoordinationResult := do
  match ← bindSafeguardEvidence config attempt with
  | none => reject "safeguard_denied" attempt claim
  | some bundleDigest => do
    let effect ← claimEffect config attempt holdRevision bundleDigest providerReceiptDigest approval
    match effect.claim with
    | none => reject effect.reason attempt claim effect.disposition
    | some effectClaim => do
      let now ← Flow.now
      if !effectClaim.isCurrentSuccess now then
        reject effect.reason attempt claim effect.disposition
      else
        terminalize attempt effectClaim snapshot claim approval holdRevision
          request.compensationReceiptDigests

def recoverDispatch (request : RecoveryRequest) (attempt : RecoveryAttemptIdentity)
    (claim : RecoveryPreDispatchClaim) (approval : WorkflowApprovalSnapshot)
    (holdRevision : ℕ) : Flow RecoveryCoordinationResult := do
  let fencedHold ← Flow.read .hold
  if activeHoldRevision fencedHold ≠ some holdRevision then reject "stale_hold" attempt
  else do
    let authorized ← authorizeHoldScopedDispatch attempt holdRevision
    if !authorized then reject "stale_hold" attempt claim
    else do
      let _ ← resolveBundle config attempt
      let dispatch ← dispatchOnce replica config attempt claim
      match dispatch.outcome with
      | .inDoubt => reject "in_doubt" attempt claim .inDoubt
      | .notInvoked => reject "not_invoked" attempt claim
      | .dispatched =>
        match dispatch.providerReceiptDigest with
        | none => reject "provider_receipt_missing" attempt claim
        | some providerReceiptDigest =>
          recoverEffect config snapshot request attempt claim approval holdRevision
            providerReceiptDigest

def recoverClaim (request : RecoveryRequest) (attempt : RecoveryAttemptIdentity)
    (approval : WorkflowApprovalSnapshot) (holdRevision : ℕ) :
    Flow RecoveryCoordinationResult := do
  let evidence ← approvalEvidenceDigest config approval attempt
  persistAttempt attempt evidence
  match ← claimOnce attempt holdRevision with
  | none => reject "claim_conflict" attempt
  | some claim => recoverDispatch replica config snapshot request attempt claim approval holdRevision

def recover (request : RecoveryRequest) : Flow RecoveryCoordinationResult := do
  let hold ← Flow.read .hold
  match activeHoldRevision hold with
  | none => pure { disposition := .notRequired }
  | some holdRevision => do
    match ← buildAttempt request.failedCompensationProposalDigest
      request.recoveryActionType request.recoveryParams holdRevision with
    | none => reject "identity_invalid"
    | some attempt =>
      if attempt.failedCompensationProposalDigest = attempt.recoveryPayloadDigest then
        reject "proposal_reuse" attempt
      else do
        match ← healCommitted attempt with
        | some healed => pure healed
        | none => do
          match ← resolveApproval config attempt with
          | none => do
            requestApproval config attempt
            reject "approval_missing" attempt
          | some approval => do
            match ← assessAdmission approval holdRevision with
            | .error reason => reject reason attempt
            | .ok _ =>
              recoverClaim replica config snapshot request attempt approval holdRevision

def heal : Flow (Option RecoveryCoordinationResult) := do
  match ← Flow.ask .findAttempt with
  | none => pure none
  | some record => do
    let attempt := AttemptRecord.identity record
    match ← healCommitted attempt with
    | some healed => pure (some healed)
    | none => do
      match ← Flow.ask (.findLookup attempt.identityDigest) with
      | none => pure none
      | some lookup => do
        let lookup : ReleaseReceiptLookup := lookup
        match ← readCurrentClaim attempt with
        | none => pure none
        | some effectClaim =>
          if effectClaim.claimDigest ≠ lookup.effectClaimDigest then pure none
          else do
            match ← consumedReleaseInstant lookup effectClaim with
            | none =>
              some <$> reject "release_receipt_missing" attempt none .effectUnverified
            | some consumedAt =>
              some <$> commitTerminal attempt effectClaim snapshot
                lookup.releaseReceiptDigest lookup.holdRevision consumedAt

end

end Fdai.Core
