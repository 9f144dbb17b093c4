import Fdai.Workflow.Regimes

/-!
# The automation hold

A process that could not undo what it applied puts its target under a *hold*. The hold
denies automation on the target until an admitted recovery releases it.

* `issueHold` — put the target under a hold, unless it is under one.
* `releaseAdmitted` — consume an admission and release one revision of the hold; the
  intent is recorded first, so that a re-delivery releases with the same receipt.
* `authorizeHoldScopedDispatch` — let one recovery step dispatch under a revision.
-/

namespace Fdai.Core

open Fdai.Providers Fdai.Concurrency

/-- `is_held`, of the record that was read. -/
def isHeld (record : Option HoldRecord) : Bool :=
  record.any (·.state ≠ .released)

/-- The revision of a hold; no hold has revision zero. -/
def holdRevisionOf (record : Option HoldRecord) : ℕ :=
  (record.map (·.revision)).getD 0

/-- `_matches_active_hold`: the record is this process's hold at this revision. -/
def matchesActiveHold (record : Option HoldRecord) (holdRevision : ℕ) : Bool :=
  record.any fun record =>
    record.state = .active ∧ record.owner = .process ∧ record.revision = holdRevision

def activeHoldRevision (record : Option HoldRecord) : Option ℕ :=
  match record with
  | none => none
  | some record =>
    if record.state ≠ .active then none
    else if record.owner ≠ .process then none
    else some record.revision

/-- `_matching_release_receipt`: the receipt of the release that was asked for. -/
def matchingReleaseReceipt (record : Option HoldRecord) (actionId : Digest)
    (holdRevision : ℕ) (admissionDigest : String) : Option ReleaseReceipt :=
  match record with
  | none => none
  | some record =>
    if record.state ≠ .released then none
    else record.releaseReceipt.filter fun receipt =>
      receipt.actionId = actionId ∧ record.owner = .process ∧
        receipt.releasedHoldRevision = holdRevision ∧
        receipt.recoveryAdmissionDigest = admissionDigest

def approvalIsCurrent (approval : WorkflowApprovalSnapshot) (evaluatedAt : Instant) : Bool :=
  if approval.cancelled || approval.timedOut then false
  else match approval.expiresAt with
    | none => false
    | some expiresAt => approval.requestedAt ≤ evaluatedAt ∧ evaluatedAt < expiresAt

/-- The hold this process issues. -/
def issuedHold (reason : String) (revision : ℕ) : HoldRecord :=
  { owner := .process, reason, state := .active, revision }

/-- `_issue_unlocked`: at most `rounds` attempts on a changing record. -/
def issueHoldUnlocked (reason : String) : ℕ → Flow Unit
  | 0 => Program.raise .holdConflict
  | rounds + 1 => do
    match ← Flow.read .hold with
    | none => do
      let created ← Flow.writeIfAbsent .hold (issuedHold reason 1)
      if created then pure () else issueHoldUnlocked reason rounds
    | some existing =>
      let existing : HoldRecord := existing
      if existing.state ≠ .released then pure ()
      else do
        let committed ← Flow.compareAndSet .hold
          (issuedHold reason (existing.revision + 1)) existing.revision
        if committed then pure () else issueHoldUnlocked reason rounds

/-- `issue`, without a resource lock, as the ledger is constructed by default. -/
def issueHold (reason : String) : Flow Unit := issueHoldUnlocked reason 3

section

variable (attempt : RecoveryAttemptIdentity)

/-- The key of the authorization of a recovery's step. -/
def authorizationKey : StateKey := .dispatchAuthorization attempt.identityDigest

def authorizeHoldScopedDispatch (holdRevision : ℕ) : Flow Bool := do
  if holdRevision < 1 then pure false
  else do
    let record ← Flow.read .hold
    if !matchesActiveHold record holdRevision then pure false
    else do
      let authorization : DispatchAuthorization :=
        { authorizedHoldRevision := holdRevision, released := false }
      let created ← Flow.writeIfAbsent (authorizationKey attempt) authorization
      if created then pure true
      else do
        let stored : Option DispatchAuthorization ← Flow.read (authorizationKey attempt)
        pure (stored.any fun stored =>
          !stored.released && stored.authorizedHoldRevision = holdRevision)

/-- `_replace_hold_scoped_authorization`: at most `rounds` attempts. -/
def replaceHoldScopedAuthorization (record : DispatchAuthorization) : ℕ → Flow Unit
  | 0 => pure ()
  | rounds + 1 => do
    match ← Flow.read (authorizationKey attempt) with
    | none => pure ()
    | some stored =>
      let stored : DispatchAuthorization := stored
      if stored.released then pure ()
      else do
        let value : DispatchAuthorization := { record with revision := stored.revision + 1 }
        let committed ← Flow.compareAndSet (authorizationKey attempt) value stored.revision
        if committed then pure () else replaceHoldScopedAuthorization record rounds

def recordReleaseAuthorization (receipt : ReleaseReceipt) : Flow Unit := do
  let record : DispatchAuthorization :=
    { authorizedHoldRevision := receipt.releasedHoldRevision, released := true }
  let created ← Flow.writeIfAbsent (authorizationKey attempt) record
  if created then pure () else replaceHoldScopedAuthorization attempt record 3

def releasedHold (record : HoldRecord) (receipt : ReleaseReceipt) : HoldRecord :=
  { record with
    state := .released
    revision := receipt.releasedHoldRevision + 1
    fencingGeneration := some receipt.fencingGeneration
    consumedRecoveryAdmissionDigest := some receipt.recoveryAdmissionDigest
    releaseReceipt := some receipt }

/-- The intent of a release; one that was recorded before stands, if it is the same. -/
def releaseIntent (intent : ReleaseIntent) (admissionDigest : String) :
    Flow (Option ReleaseIntent) := do
  let created ← Flow.writeIfAbsent (.releaseIntent admissionDigest) intent
  if created then pure (some intent)
  else do
    let existing : Option ReleaseIntent ← Flow.read (.releaseIntent admissionDigest)
    pure (existing.filter fun existing =>
      { existing with requestedAt := intent.requestedAt } = intent)

/-- The second half of `release_admitted`: the intent stands, and what the release rests on
is checked again before the guarded write. -/
def commitRelease (record : HoldRecord) (receipt : ReleaseReceipt)
    (approval : WorkflowApprovalSnapshot) : Flow (Option ReleaseReceipt) := do
  let evaluatedAt ← Flow.now
  if !approvalIsCurrent approval evaluatedAt then pure none
  else do
    let current : Bool ← Flow.ask (.admissionCurrent receipt.recoveryAdmissionDigest evaluatedAt)
    if !current then pure none
    else do
      let committed : Bool ← Flow.ask (.compareAndSetGuarded .hold (releasedHold record receipt)
        receipt.releasedHoldRevision approval)
      if committed then do
        recordReleaseAuthorization attempt receipt
        pure (some receipt)
      else do
        let stored ← Flow.read .hold
        match matchingReleaseReceipt stored receipt.actionId receipt.releasedHoldRevision
          receipt.recoveryAdmissionDigest with
        | none => pure none
        | some existing => do
          recordReleaseAuthorization attempt existing
          pure (some existing)

/-- `release_admitted`, for an assessment that is eligible and of these very arguments. -/
def releaseAdmitted (holdRevision : ℕ) (approval : WorkflowApprovalSnapshot)
    (receiptDigests : List String) (admissionDigest : String) :
    Flow (Option ReleaseReceipt) := do
  let record ← Flow.read .hold
  match matchingReleaseReceipt record attempt.actionId holdRevision admissionDigest with
  | some existing => do
    recordReleaseAuthorization attempt existing
    pure (some existing)
  | none => do
    let evaluatedAt ← Flow.now
    if !approvalIsCurrent approval evaluatedAt then pure none
    else do
      let current : Bool ← Flow.ask (.admissionCurrent admissionDigest evaluatedAt)
      if !current then pure none
      else match (record : Option HoldRecord).filter fun _ =>
          matchesActiveHold record holdRevision with
        | none => pure none
        | some held => do
          let intent : ReleaseIntent :=
            { actionId := attempt.actionId, holdRevision
              compensationReceiptDigests := receiptDigests, requestedAt := evaluatedAt }
          match ← releaseIntent intent admissionDigest with
          | none => pure none
          | some intent =>
            commitRelease attempt held
              { actionId := attempt.actionId
                releasedHoldRevision := holdRevision
                fencingGeneration := holdRevision + 1
                recoveryAdmissionDigest := admissionDigest
                compensationReceiptDigests := receiptDigests
                releasedAt := intent.requestedAt }
              approval

end

end Fdai.Core
