import Mathlib.Data.List.Lex
import Mathlib.Data.List.Sort
import Mathlib.Data.String.Basic
import Fdai.Workflow.AutomationHold
import Fdai.Workflow.RecoveryDispatch

/-!
# Recovery attempts

What a recovery under a hold is bound to before and after its dispatch: the identity of
the attempt, a separate approval, the safeguard bundle, and a claim on the effect that an
independent observer saw.
-/

namespace Fdai.Core

open Fdai.Providers Fdai.Concurrency

/-- What a recovery came to, for its caller. -/
inductive RecoveryDisposition where
  | notRequired | rejected | inDoubt | observerUnavailable | effectUnverified | completed
  | replayed
  deriving DecidableEq

/-- Evidence of one pass of the recovery path. -/
structure RecoveryCoordinationResult where
  disposition : RecoveryDisposition
  reason : Option String := none
  attemptIdentityDigest : Option Digest := none
  claimDigest : Option Digest := none
  effectClaimDigest : Option Digest := none
  releaseReceiptDigest : Option Digest := none
  completionDigest : Option Digest := none

/-- The hold must stay in force after this pass. -/
def RecoveryCoordinationResult.recoveryIncomplete (r : RecoveryCoordinationResult) : Bool :=
  r.disposition ∉ [.completed, .replayed, .notRequired]

def reject (reason : String) (attempt : Option RecoveryAttemptIdentity := none)
    (claim : Option RecoveryPreDispatchClaim := none)
    (disposition : RecoveryDisposition := .rejected) : Flow RecoveryCoordinationResult := do
  Flow.audit "workflow.recovery.rejected"
  pure
    { disposition
      reason := some reason
      attemptIdentityDigest := attempt.map (·.identityDigest)
      claimDigest := claim.map (·.claimDigest) }

/-! ## Identity and approval -/

/-- An argument as part of a digest. -/
def paramDigest : String × ParamValue → Digest
  | (name, .text value) => .ofTexts [name, "str", value]
  | (name, .int value) => .ofTexts [name, "int", toString value]
  | (name, .bool value) => .ofTexts [name, "bool", toString value]
  | (name, .float literal) => .ofTexts [name, "float", literal]

/-- The digest of the recovery's action and arguments. -/
def recoveryPayloadDigest (actionType : String) (params : Params) : Digest :=
  .ofFields [.text "workflow-recovery-payload", .text actionType,
    .ofFields (params.map paramDigest)]

/-- `RecoveryAttemptIdentity.create`, which refuses a revision or an action type that is
none. -/
def createAttempt (identity : RecoveryAttemptIdentity) : Option RecoveryAttemptIdentity :=
  if identity.holdRevision < 1 then none
  else if strip identity.recoveryActionType = "" then none
  else some identity

/-- `build_attempt`: attempts at other revisions of the hold count. -/
def buildAttempt (failedCompensationProposalDigest : Digest) (actionType : String)
    (params : Params) (holdRevision : ℕ) : Flow (Option RecoveryAttemptIdentity) := do
  let existing : List AttemptRecord ← Flow.ask .readAttempts
  pure (createAttempt
    { failedCompensationProposalDigest
      holdRevision
      recoveryActionType := actionType
      recoveryPayloadDigest := recoveryPayloadDigest actionType params
      attemptNumber :=
        1 + (existing.filter fun row => row.identity.holdRevision ≠ holdRevision).length })

section

variable (config : RecoveryCoordinatorConfig) (approval : WorkflowApprovalSnapshot)

/-- One decision as it enters a digest. -/
def decisionTexts (decision : WorkflowApprovalDecision) : List String :=
  [config.normalizePrincipal decision.principal,
    if decision.approved then "approved" else "rejected", decision.receiptRef]

def approvalDigest : Digest :=
  .ofFields [.num approval.revision, .text approval.requesterPrincipal,
    .ofFields (((approval.decisions.map (decisionTexts config)).insertionSort (· ≤ ·)).map
      .ofTexts)]

def approverIdentity : String :=
  let approvers := (approval.decisions.filter (·.approved)).map fun decision =>
    config.normalizePrincipal decision.principal
  ((approvers.insertionSort (· ≤ ·)).head?).getD approval.requesterPrincipal

/-- The digest of `RecoveryApprovalEvidence`; evidence without an approver is refused. -/
def approvalEvidenceDigest (attempt : RecoveryAttemptIdentity) : Flow Digest :=
  if strip (approverIdentity config approval) = "" then
    Program.raise (.recovery "approval evidence requires an approver_identity")
  else
    pure (.ofFields [attempt.identityDigest, approvalDigest config approval,
      .num approval.requestedAt, .text (approverIdentity config approval)])

end

def attemptKey (attempt : RecoveryAttemptIdentity) : StateKey := .attempt attempt.identityDigest

/-- `persist_attempt`. The approval an attempt was bound to does not change. -/
def persistAttempt (attempt : RecoveryAttemptIdentity) (approvalEvidenceDigest : Digest) :
    Flow Unit := do
  let record : AttemptRecord := { identity := attempt, approvalEvidenceDigest }
  let created ← Flow.writeIfAbsent (attemptKey attempt) record
  if created then pure ()
  else do
    let stored : Option AttemptRecord ← Flow.read (attemptKey attempt)
    match stored.filter (·.identity.identityDigest = attempt.identityDigest) with
    | none =>
      Program.raise (.recovery "recovery attempt identity conflicted with a stored attempt")
    | some stored =>
      if stored.approvalEvidenceDigest ≠ approvalEvidenceDigest then
        Program.raise (.recovery "recovery attempt approval evidence is not immutable")
      else pure ()

section

variable (config : RecoveryCoordinatorConfig) (attempt : RecoveryAttemptIdentity)

def resolveApproval : Flow (Option WorkflowApprovalSnapshot) :=
  if !config.approvalReader then pure none
  else Flow.ask (.recoveryApproval attempt)

def requestApproval : Flow Unit :=
  if !config.approvalRequester then pure ()
  else do
    match ← Flow.ask (.requestRecoveryApproval attempt) with
    | .error _ => pure ()
    | .ok _ => Flow.audit "workflow.recovery.approval_requested"

/-- `sha256:` and as many digits as a digest has. -/
def isBundleDigest (digest : String) : Bool :=
  digest.length = 71 && digest.startsWith "sha256:"

def resolveBundle : Flow (Option String) :=
  if !config.bundleReader then pure none
  else do
    let digest : Option String ← Flow.ask (.finalizedBundle attempt)
    pure (digest.filter isBundleDigest)

def bindSafeguardEvidence : Flow (Option String) := do
  match ← Flow.read (attemptKey attempt) with
  | none => pure none
  | some stored => do
    let stored : AttemptRecord := stored
    match ← resolveBundle config attempt with
    | none => pure none
    | some bundle => do
      let _ ← Flow.now
      match stored.safeguardBundleDigest with
      | some recorded => pure (if recorded = bundle then some recorded else none)
      | none => do
        let updated : AttemptRecord :=
          { stored with
            safeguardBundleDigest := some bundle
            revision := stored.revision + 1 }
        let committed ← Flow.compareAndSet (attemptKey attempt) updated stored.revision
        if committed then pure (some bundle)
        else do
          let current : Option AttemptRecord ← Flow.read (attemptKey attempt)
          pure (if current.any (·.safeguardBundleDigest = some bundle) then some bundle
            else none)

end

/-- What claiming the effect came to. -/
structure RecoveryEffectClaimOutcome where
  claim : Option EffectCompletionClaim
  reason : String
  disposition : RecoveryDisposition

/-- `_unavailable`. -/
def effectUnavailable (reason : String) : RecoveryEffectClaimOutcome :=
  { claim := none, reason, disposition := .observerUnavailable }

/-- `_unverified`. -/
def effectUnverified (reason : String) : RecoveryEffectClaimOutcome :=
  { claim := none, reason, disposition := .effectUnverified }

section

variable (config : RecoveryCoordinatorConfig) (attempt : RecoveryAttemptIdentity)

def effectKey : StateKey := .effect attempt.identityDigest

def readCurrentClaim : Flow (Option EffectCompletionClaim) := do
  let stored : Option EffectRecord ← Flow.read (effectKey attempt)
  pure (stored.bind EffectRecord.currentClaim)

def nextGeneration : Flow ℕ := do
  let stored : Option EffectRecord ← Flow.read (effectKey attempt)
  pure ((stored.map (·.generation)).getD 0 + 1)

/-- `_persist_claim`: the new claim supersedes the stored ones. -/
def persistClaim (claim : EffectCompletionClaim) : Flow (Option EffectCompletionClaim) := do
  match ← Flow.read (effectKey attempt) with
  | none => do
    let record : EffectRecord :=
      { currentClaimDigest := claim.claimDigest
        generation := claim.generation
        claims := [claim] }
    let created ← Flow.writeIfAbsent (effectKey attempt) record
    if created then pure (some claim) else readCurrentClaim attempt
  | some stored => do
    let stored : EffectRecord := stored
    let updated : EffectRecord :=
      { currentClaimDigest := claim.claimDigest
        generation := claim.generation
        claims := stored.claims.map (·.supersede claim.claimDigest) ++ [claim]
        revision := stored.revision + 1 }
    let committed ← Flow.compareAndSet (effectKey attempt) updated stored.revision
    if committed then pure (some claim) else readCurrentClaim attempt

/-- `assess`, of the admission gate: the digest of the admission, or why there is none. -/
def assessAdmission (approval : WorkflowApprovalSnapshot) (holdRevision : ℕ) :
    Flow (Except String String) := do
  let _ ← Flow.now
  Flow.ask (.assessRecovery approval holdRevision)

def claimEffect (holdRevision : ℕ) (safeguardBundleDigest providerReceiptDigest : String)
    (approval : WorkflowApprovalSnapshot) : Flow RecoveryEffectClaimOutcome := do
  if !config.effectObserver then pure (effectUnavailable "effect_observer_unbound")
  else do
    let _ ← Flow.now
    match ← Flow.ask (.observeEffect attempt providerReceiptDigest) with
    | .error _ => pure (effectUnavailable "effect_observation_unreadable")
    | .ok none =>
      pure (if !config.effectObservations then
          effectUnavailable "effect_observation_intake_unbound"
        else effectUnverified "effect_observation_missing")
    | .ok (some observation) =>
      if !(observation.evidenceEligible && observation.finalized) then do
        Flow.audit "workflow.recovery.effect_rejected"
        pure (effectUnverified "evidence_ineligible")
      else do
        match ← assessAdmission approval holdRevision with
        | .error _ => pure (effectUnavailable "effect_admission_unavailable")
        | .ok admissionDigest => do
          let generation ← nextGeneration attempt
          let persisted ← persistClaim attempt
            { attemptIdentityDigest := attempt.identityDigest
              safeguardBundleDigest
              providerReceiptDigest
              effectEvidenceDigest := observation.evidenceDigest
              validityStart := observation.evidenceWindowEnd
              validityEnd := observation.evidenceWindowEnd + config.claimValidity
              holdRevision
              admissionDigest
              success := observation.success
              generation }
          match persisted with
          | none => pure (effectUnverified "duplicate_claim")
          | some claim =>
            pure { claim, reason := "evidence_ineligible"
                   disposition := .effectUnverified }

end

end Fdai.Core
