import Mathlib.Data.List.Sort
import Fdai.Concurrency.Machine
import Fdai.Providers.Contracts
import Fdai.Providers.StateStore

/-!
# The automation hold ledger

Processes put targets under holds, release them and authorize steps under them, all over one
store. `AutomationHold` has the ledger as one process sees it; here any number of processes
is at work, and a hold has an owner.

* `HoldRecord`, `ReleaseReceipt`, `DispatchAuthorization` — what is stored.
* `issue`, `releaseAdmitted`, `authorizeHoldScopedDispatch` — the operations.
* `HoldWorld` — the store; `log` is not read by the code.

The approval row that guards a release is of another component: whether the guard holds comes
from outside. Audit entries and the optional lock around `issue` are left out.
-/

namespace Fdai.Core.HoldLedger

open Fdai.Providers Fdai.Concurrency

inductive HoldState where
  | active | released
  deriving DecidableEq

def targetDigest (targetRef : String) : Digest := .text targetRef

/-- `AutomationHoldReleaseReceipt`, without its digest. -/
structure ReleaseContent where
  actionId : String
  targetDigest : Digest
  processId : String
  releasedHoldRevision : ℕ
  fencingGeneration : ℕ
  recoveryAdmissionDigest : Digest
  recoveryEvidenceDigest : Digest
  compensationReceiptDigests : List String
  sourceRevision : String
  releasedAt : ℤ
  deriving DecidableEq

/-- `content_digest` of a release. -/
def ReleaseContent.digest (content : ReleaseContent) : Digest :=
  .ofFields [.text content.actionId, content.targetDigest, .text content.processId,
    .num content.releasedHoldRevision, .num content.fencingGeneration,
    content.recoveryAdmissionDigest, content.recoveryEvidenceDigest,
    .ofTexts content.compensationReceiptDigests, .text content.sourceRevision,
    instantDigest content.releasedAt]

/-- A receipt as it is stored. -/
structure ReleaseReceipt where
  content : ReleaseContent
  receiptDigest : Digest
  deriving DecidableEq

def ReleaseReceipt.create (content : ReleaseContent) : ReleaseReceipt := ⟨content, content.digest⟩

structure HoldRecord where
  targetDigest : Digest
  processId : String
  reason : String
  state : HoldState
  createdAt : Datetime
  revision : ℕ
  fencingGeneration : Option ℕ := none
  consumedRecoveryAdmissionDigest : Option Digest := none
  releaseReceipt : Option ReleaseReceipt := none
  releasedAt : Option ℤ := none

structure ReleaseIntent where
  actionId : String
  targetDigest : Digest
  processId : String
  holdRevision : ℕ
  recoveryAdmissionDigest : Digest
  recoveryEvidenceDigest : Digest
  compensationReceiptDigests : List String
  sourceRevision : String
  requestedAt : ℤ
  deriving DecidableEq

inductive AuthorizationKind where
  /-- `HOLD_SCOPED_AUTHORIZATION`. -/
  | holdScoped (authorizedHoldRevision : ℕ)
  /-- `RELEASED_AUTHORIZATION`. -/
  | released (actionId : String) (releaseReceiptDigest : Digest) (releasedHoldRevision : ℕ)
      (fencingGeneration : ℕ) (recoveryAdmissionDigest : Digest) (sourceRevision : String)
      (releasedAt : ℤ)
  deriving DecidableEq

def AuthorizationKind.isReleased : AuthorizationKind → Bool
  | .holdScoped _ => false
  | .released _ _ _ _ _ _ _ => true

structure DispatchAuthorization where
  targetDigest : Digest
  kind : AuthorizationKind
  processId : String
  stepId : String
  revision : ℕ := 1

/-- `_dispatch_authorization_key`. -/
structure AuthorizationKey where
  targetRef : String
  processId : String
  stepId : String
  deriving DecidableEq

/-! ## Evidence -/

structure ApprovalDecision where
  principal : String
  decision : String
  receiptRef : String

/-- `WorkflowApprovalSnapshot`. -/
structure ApprovalSnapshot where
  processId : String
  stepId : String
  requesterPrincipal : String
  revision : ℕ
  requestedAt : Datetime
  expiresAt : Option Datetime
  attempt : ℕ := 1
  decisions : List ApprovalDecision := []
  timedOut : Bool := false
  cancelled : Bool := false

/-- `DecisionEvidenceAdmission`. -/
structure EvidenceAdmission where
  evidenceDigest : Digest
  scopeDigest : Digest
  purposeId : String
  sourceRevision : String
  verifiedAt : ℤ
  validUntil : ℤ
  receiptDigest : Digest

/-- `WorkflowRecoveryAdmissionAssessment`. -/
structure AdmissionAssessment where
  evidenceDigest : Digest
  scopeDigest : Digest
  sourceRevision : String
  /-- An assessment is eligible if it has an admission. -/
  admission : Option EvidenceAdmission

/-- The arguments of `release_admitted`. -/
structure ReleaseRequest where
  targetRef : String
  processId : String
  actionId : String
  holdRevision : ℕ
  approvalSnapshot : ApprovalSnapshot
  quorum : ℕ
  noSelfApproval : Bool
  compensationReceiptDigests : List String
  executorIdentity : String
  sourceRevision : String
  assessment : AdmissionAssessment
  workflowLineage : Option (String × String) := none

/-- `WORKFLOW_RECOVERY_EVIDENCE_PURPOSE`. -/
def recoveryEvidencePurpose : String := "workflow-automation-hold-recovery"

/-- `_validate_recovery_inputs`. -/
def ReleaseRequest.isValid (request : ReleaseRequest) : Bool :=
  let approval := request.approvalSnapshot
  let digests := request.compensationReceiptDigests
  approval.processId ≠ "" && approval.stepId ≠ "" && 1 ≤ approval.attempt &&
    1 ≤ approval.revision && 1 ≤ request.quorum && 1 ≤ request.holdRevision &&
    strip request.executorIdentity ≠ "" && strip request.sourceRevision ≠ "" &&
    request.sourceRevision.length ≤ 512 && digests ≠ [] &&
    digests = digests.insertionSort (· ≤ ·) && digests.Nodup && digests.all isSha256

/-- `workflow_approval_evidence_digest`. -/
def ReleaseRequest.approvalEvidenceDigest (request : ReleaseRequest) : Digest :=
  let approval := request.approvalSnapshot
  .ofFields [.text approval.processId, .text approval.stepId, .num approval.attempt,
    .num approval.revision, .text approval.requesterPrincipal, .num request.quorum,
    .num (if request.noSelfApproval then 1 else 0),
    .ofFields (approval.decisions.map fun decision =>
      .ofTexts [decision.principal, decision.decision, decision.receiptRef])]

/-- `workflow_recovery_evidence_digest`; `normalize` is `normalize_workflow_principal`. -/
def ReleaseRequest.evidenceDigest (normalize : String → String) (request : ReleaseRequest) :
    Option Digest :=
  if ¬ request.isValid then none
  else some (.ofFields [request.approvalEvidenceDigest, .num request.holdRevision,
    targetDigest request.targetRef, .ofTexts request.compensationReceiptDigests,
    .text (normalize request.executorIdentity), .text request.sourceRevision])

/-- `workflow_recovery_scope_digest`. -/
def ReleaseRequest.scopeDigest (request : ReleaseRequest) : Digest :=
  let approval := request.approvalSnapshot
  .ofFields [.text approval.processId, .text approval.stepId, .num approval.attempt,
    .num request.holdRevision, targetDigest request.targetRef]

/-- `assess_decision_evidence_admission` finds nothing against an admission. -/
def EvidenceAdmission.isAdmitted (admission : EvidenceAdmission) (evidenceDigest : Digest)
    (request : ReleaseRequest) (evaluatedAt : ℤ) : Bool :=
  admission.evidenceDigest = evidenceDigest &&
    admission.verifiedAt ≤ evaluatedAt && evaluatedAt ≤ admission.validUntil &&
    admission.purposeId = recoveryEvidencePurpose &&
    admission.scopeDigest = request.scopeDigest &&
    admission.sourceRevision = request.sourceRevision

/-- The checks of a release before anything is read: its admission, and the digest of its
evidence. -/
def ReleaseRequest.admitted (normalize : String → String) (request : ReleaseRequest) :
    Option (EvidenceAdmission × Digest) :=
  match request.assessment.admission, request.evidenceDigest normalize with
  | some admission, some evidenceDigest =>
    if strip request.actionId = "" then none
    else if request.approvalSnapshot.processId ≠ request.processId then none
    else if request.assessment.evidenceDigest ≠ evidenceDigest ∨
        request.assessment.scopeDigest ≠ request.scopeDigest ∨
        request.assessment.sourceRevision ≠ request.sourceRevision ∨
        admission.evidenceDigest ≠ evidenceDigest ∨
        admission.scopeDigest ≠ request.scopeDigest ∨
        admission.sourceRevision ≠ request.sourceRevision then none
    else some (admission, evidenceDigest)
  | _, _ => none

/-- `_approval_is_current`. -/
def ApprovalSnapshot.isCurrent (approval : ApprovalSnapshot) (evaluatedAt : ℤ) : Bool :=
  if approval.cancelled || approval.timedOut then false
  else match approval.expiresAt, approval.requestedAt with
    | some (.aware expiresAt), .aware requestedAt =>
      requestedAt ≤ evaluatedAt && evaluatedAt < expiresAt
    | _, _ => false

/-- `is_held`, of the record that was read. -/
def isHeld (targetRef : String) : Option HoldRecord → Bool
  | none => false
  | some record =>
    ¬ (record.targetDigest = targetDigest targetRef ∧ record.state = .released)

/-- `_matches_active_hold`. -/
def HoldRecord.matchesActive (record : HoldRecord) (targetRef processId : String)
    (holdRevision : ℕ) : Bool :=
  record.targetDigest = HoldLedger.targetDigest targetRef && record.state = .active &&
    record.processId = processId && record.revision = holdRevision

def matchingReleaseReceipt (request : ReleaseRequest) (admissionDigest : Digest)
    (record : Option HoldRecord) : Option ReleaseReceipt := do
  let record ← record
  if record.state ≠ .released then none
  else do
    let receipt ← record.releaseReceipt
    if receipt.content.actionId ≠ request.actionId ∨ receipt.content.processId ≠ request.processId ∨
        receipt.content.releasedHoldRevision ≠ request.holdRevision ∨
        receipt.content.recoveryAdmissionDigest ≠ admissionDigest then none
    else if receipt.receiptDigest ≠ receipt.content.digest then none
    else some receipt

/-- What a ledger calls. -/
inductive HoldOp where
  | now
  /-- Who reads a hold to issue one is known. -/
  | readHold (targetRef : String) (issuer : Option String)
  | writeHoldIfAbsent (targetRef : String) (value : HoldRecord)
  | compareAndSetHold (targetRef : String) (value : HoldRecord) (expectedRevision : ℕ)
  /-- `compare_and_set_state_with_approval_guard`. -/
  | compareAndSetGuarded (targetRef processId : String) (value : HoldRecord)
      (expectedRevision : ℕ) (approval : ApprovalSnapshot)
  | readIntent (admissionDigest : Digest)
  | writeIntentIfAbsent (admissionDigest : Digest) (value : ReleaseIntent)
  | readAuthorization (key : AuthorizationKey)
  | writeAuthorizationIfAbsent (key : AuthorizationKey) (value : DispatchAuthorization)
  | compareAndSetAuthorization (key : AuthorizationKey) (value : DispatchAuthorization)
      (expectedRevision : ℕ)

@[reducible] def HoldOp.Ans : HoldOp → Type
  | .now => Datetime
  | .readHold _ _ => Option HoldRecord
  | .readIntent _ => Option ReleaseIntent
  | .readAuthorization _ => Option DispatchAuthorization
  | .writeHoldIfAbsent _ _ | .compareAndSetHold _ _ _ | .compareAndSetGuarded _ _ _ _ _
  | .writeIntentIfAbsent _ _ | .writeAuthorizationIfAbsent _ _
  | .compareAndSetAuthorization _ _ _ => Bool

/-- What a ledger raises. -/
inductive HoldError where
  | runtime (message : String)
  deriving DecidableEq

/-- A program of a ledger. -/
abbrev Holding (α : Type) := Program HoldOp HoldOp.Ans HoldError α

/-- Make one call. -/
def ask (op : HoldOp) : Holding op.Ans := Program.invoke op

/-! ## Operations -/

def issuedHold (targetRef processId reason : String) (now : Datetime) (revision : ℕ) :
    HoldRecord :=
  { targetDigest := targetDigest targetRef, processId, reason, state := .active
    createdAt := now, revision }

/-- `_issue_unlocked`, with the rounds that are left. -/
def issueUnlocked (targetRef processId reason : String) : ℕ → Holding Unit
  | 0 => throw (.runtime "automation hold issue conflicted repeatedly")
  | rounds + 1 => do
    let existing : Option HoldRecord ← ask (.readHold targetRef (some processId))
    match existing with
    | none => do
      let now : Datetime ← ask .now
      let created : Bool ← ask
        (.writeHoldIfAbsent targetRef (issuedHold targetRef processId reason now 1))
      if created then pure () else issueUnlocked targetRef processId reason rounds
    | some existing =>
      if existing.state ≠ .released then pure ()
      else do
        let now : Datetime ← ask .now
        let committed : Bool ← ask (.compareAndSetHold targetRef
          (issuedHold targetRef processId reason now (existing.revision + 1))
          existing.revision)
        if committed then pure () else issueUnlocked targetRef processId reason rounds

def issue (targetRef processId reason : String) : Holding Unit :=
  issueUnlocked targetRef processId reason 3

/-- `_replace_hold_scoped_authorization`, with the rounds that are left. -/
def replaceHoldScopedAuthorization (key : AuthorizationKey) (record : DispatchAuthorization) :
    ℕ → Holding Unit
  | 0 => pure ()
  | rounds + 1 => do
    let stored : Option DispatchAuthorization ← ask (.readAuthorization key)
    match stored with
    | none => pure ()
    | some stored =>
      if stored.kind.isReleased then pure ()
      else do
        let committed : Bool ← ask (.compareAndSetAuthorization key
          { record with revision := stored.revision + 1 } stored.revision)
        if committed then pure () else replaceHoldScopedAuthorization key record rounds

def recordReleaseAuthorization (targetRef : String) (receipt : ReleaseReceipt)
    (recoveryAdmissionDigest : Digest) : Option (String × String) → Holding Unit
  | none => pure ()
  | some (processId, stepId) =>
    if strip processId = "" ∨ strip stepId = "" then pure ()
    else do
      let key : AuthorizationKey := ⟨targetRef, processId, stepId⟩
      let content := receipt.content
      let record : DispatchAuthorization :=
        { targetDigest := content.targetDigest
          kind := .released content.actionId receipt.receiptDigest
            content.releasedHoldRevision content.fencingGeneration recoveryAdmissionDigest
            content.sourceRevision content.releasedAt
          processId, stepId }
      let created : Bool ← ask (.writeAuthorizationIfAbsent key record)
      if created then pure () else replaceHoldScopedAuthorization key record 3

/-- A receipt that was found is bound and returned. -/
def bindReceipt (request : ReleaseRequest) (admissionDigest : Digest) :
    Option ReleaseReceipt → Holding (Option ReleaseReceipt)
  | none => pure none
  | some receipt => do
    recordReleaseAuthorization request.targetRef receipt admissionDigest request.workflowLineage
    pure (some receipt)

/-- The intent of a release: its own, or one that was recorded before and is the same. -/
def releaseIntent (admissionDigest : Digest) (intent : ReleaseIntent) :
    Holding (Option ReleaseIntent) := do
  let created : Bool ← ask (.writeIntentIfAbsent admissionDigest intent)
  if created then pure (some intent)
  else do
    let existing : Option ReleaseIntent ← ask (.readIntent admissionDigest)
    pure (existing.filter fun existing =>
      { existing with requestedAt := intent.requestedAt } = intent)

def releasedHold (record : HoldRecord) (receipt : ReleaseReceipt) : HoldRecord :=
  let content := receipt.content
  { record with
    state := .released
    revision := content.releasedHoldRevision + 1
    fencingGeneration := some (content.releasedHoldRevision + 1)
    consumedRecoveryAdmissionDigest := some content.recoveryAdmissionDigest
    releaseReceipt := some receipt
    releasedAt := some content.releasedAt }

/-- The second half of `release_admitted`: with the intent on record, the evidence is checked
again before the guarded write. -/
def commitRelease (request : ReleaseRequest) (admission : EvidenceAdmission)
    (evidenceDigest : Digest) (record : HoldRecord) (releasedAt : ℤ) :
    Holding (Option ReleaseReceipt) := do
  let receipt := ReleaseReceipt.create
    { actionId := request.actionId, targetDigest := targetDigest request.targetRef
      processId := request.processId, releasedHoldRevision := request.holdRevision
      fencingGeneration := request.holdRevision + 1
      recoveryAdmissionDigest := admission.receiptDigest
      recoveryEvidenceDigest := evidenceDigest
      compensationReceiptDigests := request.compensationReceiptDigests
      sourceRevision := request.sourceRevision, releasedAt }
  let reading : Datetime ← ask .now
  match reading with
  | .naive _ => pure none
  | .aware evaluatedAt =>
    if ¬ request.approvalSnapshot.isCurrent evaluatedAt then pure none
    else if ¬ admission.isAdmitted evidenceDigest request evaluatedAt then pure none
    else do
      let committed : Bool ← ask (.compareAndSetGuarded request.targetRef request.processId
        (releasedHold record receipt) request.holdRevision request.approvalSnapshot)
      if committed then bindReceipt request admission.receiptDigest (some receipt)
      else do
        let stored : Option HoldRecord ← ask (.readHold request.targetRef none)
        bindReceipt request admission.receiptDigest
          (matchingReleaseReceipt request admission.receiptDigest stored)

/-- `release_admitted`; `normalize` is `normalize_workflow_principal`. -/
def releaseAdmitted (normalize : String → String) (request : ReleaseRequest) :
    Holding (Option ReleaseReceipt) :=
  match request.admitted normalize with
  | none => pure none
  | some (admission, evidenceDigest) => do
    let record : Option HoldRecord ← ask (.readHold request.targetRef none)
    match matchingReleaseReceipt request admission.receiptDigest record with
    | some existing => bindReceipt request admission.receiptDigest (some existing)
    | none => do
      let reading : Datetime ← ask .now
      match reading, record with
      | .aware evaluatedAt, some record =>
        if ¬ request.approvalSnapshot.isCurrent evaluatedAt then pure none
        else if ¬ admission.isAdmitted evidenceDigest request evaluatedAt then pure none
        else if ¬ record.matchesActive request.targetRef request.processId
            request.holdRevision then pure none
        else do
          let intent : ReleaseIntent :=
            { actionId := request.actionId, targetDigest := targetDigest request.targetRef
              processId := request.processId, holdRevision := request.holdRevision
              recoveryAdmissionDigest := admission.receiptDigest
              recoveryEvidenceDigest := evidenceDigest
              compensationReceiptDigests := request.compensationReceiptDigests
              sourceRevision := request.sourceRevision, requestedAt := evaluatedAt }
          match ← releaseIntent admission.receiptDigest intent with
          | none => pure none
          | some intent =>
            commitRelease request admission evidenceDigest record intent.requestedAt
      | _, _ => pure none

def authorizeHoldScopedDispatch (targetRef processId stepId : String) (holdRevision : ℕ) :
    Holding Bool := do
  if strip stepId = "" ∨ strip processId = "" ∨ holdRevision < 1 then pure false
  else do
    let record : Option HoldRecord ← ask (.readHold targetRef none)
    if ¬ record.any (·.matchesActive targetRef processId holdRevision) then pure false
    else do
      let key : AuthorizationKey := ⟨targetRef, processId, stepId⟩
      let created : Bool ← ask (.writeAuthorizationIfAbsent key
        { targetDigest := targetDigest targetRef, kind := .holdScoped holdRevision
          processId, stepId })
      if created then pure true
      else do
        let stored : Option DispatchAuthorization ← ask (.readAuthorization key)
        pure (stored.any fun stored => stored.kind = .holdScoped holdRevision &&
          stored.processId = processId && stored.stepId = stepId)

/-- What is written to a hold. -/
inductive HoldEvent where
  | issued (targetRef : String) (hold : HoldRecord)
  /-- An admitted release of a process replaces a hold at a revision. -/
  | released (targetRef processId : String) (holdRevision : ℕ) (replaced hold : HoldRecord)

structure HoldWorld where
  holds : StateStore String fun _ => HoldRecord := StateStore.empty
  intents : StateStore Digest fun _ => ReleaseIntent := StateStore.empty
  authorizations : StateStore AuthorizationKey fun _ => DispatchAuthorization := StateStore.empty
  log : List HoldEvent := []

abbrev HoldWorld.hold (w : HoldWorld) (targetRef : String) : Option HoldRecord :=
  w.holds.read targetRef

/-- The authorization of a step. -/
abbrev HoldWorld.authorization (w : HoldWorld) (key : AuthorizationKey) :
    Option DispatchAuthorization :=
  w.authorizations.read key

/-- What comes from outside: the time, and whether the approval that guards a release and its
admission hold in the store. -/
structure HoldOracle where
  now : Datetime := .aware 0
  guardHolds : Bool := true

/-- A hold is written. -/
def HoldWorld.held (w : HoldWorld) (targetRef : String) (value : HoldRecord)
    (event : HoldEvent) : HoldWorld :=
  { w with holds := w.holds.write targetRef value, log := w.log ++ [event] }

/-- The effect of one call. -/
def HoldWorld.perform (o : HoldOracle) (w : HoldWorld) : (op : HoldOp) → op.Ans × HoldWorld
  | .now => (o.now, w)
  | .readHold targetRef _ => (w.hold targetRef, w)
  | .writeHoldIfAbsent targetRef value =>
    match w.hold targetRef with
    | some _ => (false, w)
    | none => (true, w.held targetRef value (.issued targetRef value))
  | .compareAndSetHold targetRef value expectedRevision =>
    match w.hold targetRef with
    | none => (false, w)
    | some stored =>
      if stored.revision = expectedRevision then
        (true, w.held targetRef value (.issued targetRef value))
      else (false, w)
  | .compareAndSetGuarded targetRef processId value expectedRevision _ =>
    match w.hold targetRef with
    | none => (false, w)
    | some stored =>
      if stored.revision = expectedRevision ∧ o.guardHolds then
        (true, w.held targetRef value (.released targetRef processId expectedRevision stored value))
      else (false, w)
  | .readIntent admissionDigest => (w.intents.read admissionDigest, w)
  | .writeIntentIfAbsent admissionDigest value =>
    let (created, intents) := w.intents.writeIfAbsent admissionDigest value
    (created, { w with intents })
  | .readAuthorization key => (w.authorization key, w)
  | .writeAuthorizationIfAbsent key value =>
    let (created, authorizations) := w.authorizations.writeIfAbsent key value
    (created, { w with authorizations })
  | .compareAndSetAuthorization key value expectedRevision =>
    let (committed, authorizations) := w.authorizations.compareAndSet
      (fun _ authorization => authorization.revision) key value expectedRevision
    (committed, { w with authorizations })

/-- A call of a process. -/
inductive HoldRequest where
  | issue (targetRef processId reason : String)
  | release (request : ReleaseRequest)
  | authorize (targetRef processId stepId : String) (holdRevision : ℕ)

/-- What a call returns. -/
inductive HoldResult where
  | issued (targetRef processId : String)
  | released (receipt : Option ReleaseReceipt)
  | authorized (authorized : Bool)
  deriving DecidableEq

/-- The program of a call. -/
def HoldRequest.program (normalize : String → String) : HoldRequest → Holding HoldResult
  | .issue targetRef processId reason =>
    (fun _ => .issued targetRef processId) <$> HoldLedger.issue targetRef processId reason
  | .release request => .released <$> releaseAdmitted normalize request
  | .authorize targetRef processId stepId holdRevision =>
    .authorized <$> authorizeHoldScopedDispatch targetRef processId stepId holdRevision

/-- Processes over one store. -/
def holdMachine (normalize : String → String) :
    Machine HoldOp HoldOp.Ans HoldWorld HoldError HoldResult HoldRequest HoldOracle where
  perform := HoldWorld.perform
  program _ call := call.program normalize

end Fdai.Core.HoldLedger
