import Fdai.Concurrency.Machine
import Fdai.Workflow.RecoveryRecords

/-!
# What a workflow replica calls

Every function of the workflow core is a program over one set of calls: the process
store, the state store, and the outside (clocks, the action dispatcher, the outcome
verifier, approvals, the recovery ports).

* `WorkflowOp`, `WorkflowAns` — the calls and the type of their answers.
* `World` — the two stores, with two records nothing in the code reads: the snapshots
  the process has had, and the log of what its replicas did.
* `Oracle` — what the outside answers. It is a parameter of every scheduler step, so a
  theorem about all runs is one about all answers.

Some calls carry more than the source passes: what the caller holds at that moment (the
snapshot it works from, the claim it publishes under, the hold it last saw, the replica it
is). `perform` at
most logs these; they let a statement speak about the caller.
-/

namespace Fdai.Core

open Fdai.Providers Fdai.Concurrency

/-- Outcome of a dispatched action. -/
inductive ActionOutcome where
  | succeeded | failed | notAttempted

/-- An outcome resolved from durable evidence. A success names its safeguard bundle. -/
structure WorkflowVerifiedOutcome where
  outcome : ActionOutcome
  receiptRef : String
  safeguardBundleDigest : Option String
  bound : outcome = .succeeded → safeguardBundleDigest.isSome

/-- One recorded decision of an approval. -/
structure WorkflowApprovalDecision where
  principal : String
  approved : Bool
  receiptRef : String

structure WorkflowApprovalSnapshot where
  requesterPrincipal : String
  revision : ℕ
  requestedAt : Instant
  expiresAt : Option Instant
  decisions : List WorkflowApprovalDecision := []
  timedOut : Bool := false
  cancelled : Bool := false

/-- Why a read of the process is made. The source does not say. -/
inductive Purpose where
  | plain
  /-- The orchestrator after the runner returned. -/
  | afterRun (outcome : RunbookStepOutcome) (handle : ProcessSnapshot)
  /-- The first read of a compensation that resumes. -/
  | resumeCompensation
  /-- The boundary check of a cancellation. -/
  | boundary (handle : ProcessSnapshot)

/-- An action handed to the dispatcher. -/
structure Publication where
  stepId : StepId
  actionType : String
  params : Params
  attempt : ℕ
  /-- The dispatch claim of the caller; a compensation has none. -/
  claim : Option ProcessEvent
  /-- The snapshot the caller works from. -/
  handle : ProcessSnapshot
  /-- The replica that makes the call. -/
  replica : ℕ

/-- What a caller holds when it writes a dispatch claim. The source does not say. -/
inductive Hand where
  | plain
  /-- It acquires the in-flight lease; `first` is the record it read first. -/
  | acquiring (replica : ℕ) (owner : Token) (first : Option ClaimRecord)
  /-- It records a result under its lease; `reread` where that result is the one it read
  first, for want of an answer of the provider. -/
  | recording (owner : Token) (reread : Bool)

/-- The calls of the workflow core. -/
inductive WorkflowOp where
  -- the process store
  | createProcess (snapshot : ProcessSnapshot) (event : ProcessEvent)
  | transition (expectedRevision : ℕ) (status : ProcessStatus) (currentStep : StepId)
      (event : ProcessEvent) (seenHold : ℕ)
  | getProcess (purpose : Purpose)
  | readEvents (purpose : Purpose)
  | appendEvent (event : ProcessEvent) (claimant : Option ℕ)
  -- the state store
  | readState (key : StateKey)
  | writeStateIfAbsent (key : StateKey) (value : StateRecord key)
  | compareAndSetState (key : StateKey) (value : StateRecord key) (expectedRevision : ℕ)
      (hand : Hand)
  | compareAndSetGuarded (key : StateKey) (value : StateRecord key) (expectedRevision : ℕ)
      (approval : WorkflowApprovalSnapshot)
  | readAttempts
  | findAttempt
  | findLookup (attempt : Digest)
  | appendAuditEntry (actionKind : String)
  -- the outside
  | now
  | newToken (replica : ℕ)
  | evaluateGuard (guardRef : String) (step : StepId)
  | dispatch (publication : Publication)
  | resolveOutcome (step : StepId) (proposalRef : String)
  | verifyOutcome (step : StepId) (proposalRef : String) (outcome : ActionOutcome)
      (receiptRef : String)
  | captureEvidence (step : StepId)
  | ensureApprovalRequested (step : StepId) (attempt : ℕ)
  | markApprovalTimedOut (step : StepId) (attempt : ℕ) (expectedRevision : ℕ)
  | cancelPendingApproval (step : StepId) (attempt : ℕ)
  | approvalRejections (approval : WorkflowApprovalSnapshot)
  | recoveryApproval (attempt : RecoveryAttemptIdentity)
  | requestRecoveryApproval (attempt : RecoveryAttemptIdentity)
  | assessRecovery (approval : WorkflowApprovalSnapshot) (holdRevision : ℕ)
  | admissionCurrent (admissionDigest : String) (evaluatedAt : Instant)
  | dispatchRecovery (attempt : RecoveryAttemptIdentity) (claim : RecoveryPreDispatchClaim)
      (owner : Token)
  | reconcileRecovery (attempt : RecoveryAttemptIdentity) (claim : RecoveryPreDispatchClaim)
  | finalizedBundle (attempt : RecoveryAttemptIdentity)
  | observeEffect (attempt : RecoveryAttemptIdentity) (providerReceipt : String)

/-- The type of the answer to each call. An outside party that may raise answers with
`Except`; what is raised is the name of the exception's type where the code uses it. -/
def WorkflowAns : WorkflowOp → Type
  | .createProcess _ _ => ProcessSnapshot × Bool
  | .transition _ _ _ _ _ => Except ProcessRuntimeError ProcessSnapshot
  | .getProcess _ => Option ProcessSnapshot
  | .readEvents _ => List ProcessEvent
  | .appendEvent _ _ => Except ProcessRuntimeError Bool
  | .readState key => Option (StateRecord key)
  | .writeStateIfAbsent _ _ => Bool
  | .compareAndSetState _ _ _ _ => Bool
  | .compareAndSetGuarded _ _ _ _ => Bool
  | .readAttempts => List AttemptRecord
  | .findAttempt => Option AttemptRecord
  | .findLookup _ => Option ReleaseReceiptLookup
  | .appendAuditEntry _ => Unit
  | .now => Instant
  | .newToken _ => Token
  | .evaluateGuard _ _ => Except String Bool
  | .dispatch _ => Except String String
  | .resolveOutcome _ _ => Except Unit (Option WorkflowVerifiedOutcome)
  | .verifyOutcome _ _ _ _ => Except Unit Bool
  | .captureEvidence _ => Except String (Option String)
  | .ensureApprovalRequested _ _ => Except Unit WorkflowApprovalSnapshot
  | .markApprovalTimedOut _ _ _ => Except Unit Bool
  | .cancelPendingApproval _ _ => Bool
  | .approvalRejections _ => Except Unit (List String)
  | .recoveryApproval _ => Option WorkflowApprovalSnapshot
  | .requestRecoveryApproval _ => Except Unit Unit
  | .assessRecovery _ _ => Except String String
  | .admissionCurrent _ _ => Bool
  | .dispatchRecovery _ _ _ => Except Unit RecoveryDispatchResult
  | .reconcileRecovery _ _ => Except Unit (Option RecoveryDispatchResult)
  | .finalizedBundle _ => Option String
  | .observeEffect _ _ => Except Unit (Option RecoveryEffectObservation)

/-- What a program of the workflow core can stop with. -/
inductive WorkflowError where
  | store (error : ProcessRuntimeError)
  | holdConflict
  | cancellation (kind : String)
  | retry (kind : String)
  | resume (kind : String)
  | recovery (message : String)
  | runbook (error : RunbookRunError)
  | verifierOutage
  | unknownStartStep
  | vanished

/-- Programs of the workflow core. -/
abbrev Flow := Program WorkflowOp WorkflowAns WorkflowError

/-! ## The world -/

/-- What a replica did that no store shows: it obtained a generation, published an
action or got an outcome verified; it acquired the in-flight lease of a recovery, had the
recovery invoked or reconciled, recorded what that came to, or released the hold. -/
inductive LogEvent where
  | claimed (claim : ProcessEvent) (replica : ℕ)
  | published (publication : Publication)
  | verified (step : StepId) (proposalRef : String) (outcome : ActionOutcome)
  | leaseAcquired (owner : Token) (replica : ℕ) (tookOver : Bool)
  | recoveryInvoked (owner : Token) (answer : Option RecoveryDispatchResult)
  | recoveryReconciled (answer : Option RecoveryDispatchResult)
  | dispatchRecorded (outcome : RecoveryDispatchOutcome) (resultDigest : Option Digest)
  | holdReleased (holdRevision : ℕ)

/-- The stores of one process, what the process has been, and what its replicas did. -/
structure World where
  process : ProcessStore := {}
  past : List ProcessSnapshot := []
  records : Records := .empty
  log : List LogEvent := []
  /-- The replica each token was issued to. -/
  issued : List ℕ := []

/-- What the outside answers when it is asked next. -/
structure Oracle where
  now : Instant := 0
  approvalGuard : Bool := true
  evaluateGuard : Except String Bool := .ok true
  dispatch : Except String String := .ok "proposal"
  resolveOutcome : Except Unit (Option WorkflowVerifiedOutcome) := .ok none
  verifyOutcome : Except Unit Bool := .ok true
  captureEvidence : Except String (Option String) := .ok none
  approval : Except Unit WorkflowApprovalSnapshot := .error ()
  markApprovalTimedOut : Except Unit Bool := .error ()
  cancelPendingApproval : Bool := true
  approvalRejections : Except Unit (List String) := .ok []
  recoveryApproval : Option WorkflowApprovalSnapshot := none
  requestRecoveryApproval : Except Unit Unit := .ok ()
  assessRecovery : Except String String := .error "approval_missing"
  admissionCurrent : Bool := true
  dispatchRecovery : Except Unit RecoveryDispatchResult := .error ()
  reconcileRecovery : Except Unit (Option RecoveryDispatchResult) := .ok none
  finalizedBundle : Option String := none
  observeEffect : Except Unit (Option RecoveryEffectObservation) := .ok none

def World.transitioned (w : World) (answer : Except ProcessRuntimeError ProcessSnapshot)
    (process : ProcessStore) : World :=
  match answer with
  | .ok snapshot => { w with process, past := w.past ++ [snapshot] }
  | .error _ => { w with process }

/-- The log entry of an append: a claim that was appended is its claimant's. -/
def claimed (event : ProcessEvent) (claimant : Option ℕ) :
    Except ProcessRuntimeError Bool → List LogEvent
  | .ok true => claimant.toList.map (.claimed event)
  | _ => []

def written (records : Records) : (key : StateKey) → StateRecord key → Hand → List LogEvent
  | .claim identity holdRevision, _, .acquiring replica owner _ =>
    let stored : Option ClaimRecord := records.read (.claim identity holdRevision)
    [.leaseAcquired owner replica (stored.any (·.dispatchState = .inFlight))]
  | .claim _ _, value, .recording _ _ =>
    [.dispatchRecorded (ClaimRecord.dispatchOutcome value) (ClaimRecord.dispatchResultDigest value)]
  | _, _, _ => []

/-- The effect of one call. -/
def perform (o : Oracle) (w : World) : (op : WorkflowOp) → WorkflowAns op × World
  | .createProcess snapshot event =>
    let (answer, process) := w.process.create snapshot event
    (answer, { w with process, past := w.past ++ [answer.1] })
  | .transition expectedRevision status currentStep event _ =>
    let (answer, process) := w.process.transition expectedRevision status currentStep event
    (answer, w.transitioned answer process)
  | .getProcess _ => (w.process.snapshot, w)
  | .readEvents _ => (w.process.journal, w)
  | .appendEvent event claimant =>
    let (answer, process) := w.process.appendEvent event
    (answer, { w with process, log := w.log ++ claimed event claimant answer })
  | .readState key => (w.records.read key, w)
  | .writeStateIfAbsent key value =>
    let (answer, records) := w.records.writeIfAbsent key value
    (answer, { w with records })
  | .compareAndSetState key value expectedRevision hand =>
    let (answer, records) := w.records.compareAndSet recordRevision key value expectedRevision
    (answer, { w with
      records, log := w.log ++ if answer then written w.records key value hand else [] })
  | .compareAndSetGuarded key value expectedRevision _ =>
    if o.approvalGuard then
      let (answer, records) := w.records.compareAndSet recordRevision key value expectedRevision
      (answer, { w with
        records, log := w.log ++ if answer then [.holdReleased expectedRevision] else [] })
    else (false, w)
  | .readAttempts => (w.records.attempts.take 64, w)
  | .findAttempt => (w.records.findAttempt, w)
  | .findLookup attempt => (w.records.findLookup attempt, w)
  | .appendAuditEntry _ => ((), w)
  | .now => (o.now, w)
  | .newToken replica => (w.issued.length, { w with issued := w.issued ++ [replica] })
  | .evaluateGuard _ _ => (o.evaluateGuard, w)
  | .dispatch publication => (o.dispatch, { w with log := w.log ++ [.published publication] })
  | .resolveOutcome _ _ => (o.resolveOutcome, w)
  | .verifyOutcome step proposalRef outcome _ =>
    match o.verifyOutcome with
    | .ok true =>
      (.ok true, { w with log := w.log ++ [.verified step proposalRef outcome] })
    | answer => (answer, w)
  | .captureEvidence _ => (o.captureEvidence, w)
  | .ensureApprovalRequested _ _ => (o.approval, w)
  | .markApprovalTimedOut _ _ _ => (o.markApprovalTimedOut, w)
  | .cancelPendingApproval _ _ => (o.cancelPendingApproval, w)
  | .approvalRejections _ => (o.approvalRejections, w)
  | .recoveryApproval _ => (o.recoveryApproval, w)
  | .requestRecoveryApproval _ => (o.requestRecoveryApproval, w)
  | .assessRecovery _ _ => (o.assessRecovery, w)
  | .admissionCurrent _ _ => (o.admissionCurrent, w)
  | .dispatchRecovery _ _ owner =>
    (o.dispatchRecovery,
      { w with log := w.log ++ [.recoveryInvoked owner o.dispatchRecovery.toOption] })
  | .reconcileRecovery _ _ =>
    (o.reconcileRecovery,
      { w with log := w.log ++ [.recoveryReconciled (o.reconcileRecovery.toOption.bind id)] })
  | .finalizedBundle _ => (o.finalizedBundle, w)
  | .observeEffect _ _ => (o.observeEffect, w)

namespace Flow

/-- Make a call. -/
def ask (op : WorkflowOp) : Flow (WorkflowAns op) := Program.invoke op

/-- A transition; an error of the store is raised. `seenHold` is the revision of the hold
the caller goes by, where it goes by one. -/
def transition (expectedRevision : ℕ) (status : ProcessStatus) (currentStep : StepId)
    (event : ProcessEvent) (seenHold : ℕ := 0) : Flow ProcessSnapshot := do
  match ← ask (.transition expectedRevision status currentStep event seenHold) with
  | .ok snapshot => pure snapshot
  | .error e => Program.raise (.store e)

/-- An append; an error of the store is raised. -/
def appendEvent (event : ProcessEvent) (claimant : Option ℕ := none) : Flow Bool := do
  match ← ask (.appendEvent event claimant) with
  | .ok appended => pure appended
  | .error e => Program.raise (.store e)

/-- The journal. -/
def events (purpose : Purpose) : Flow (List ProcessEvent) := ask (.readEvents purpose)

def read (key : StateKey) : Flow (Option (StateRecord key)) := ask (.readState key)

/-- Write a record where none is stored. -/
def writeIfAbsent (key : StateKey) (value : StateRecord key) : Flow Bool :=
  ask (.writeStateIfAbsent key value)

def compareAndSet (key : StateKey) (value : StateRecord key) (expectedRevision : ℕ)
    (hand : Hand := .plain) : Flow Bool :=
  ask (.compareAndSetState key value expectedRevision hand)

/-- One entry of the audit log. -/
def audit (actionKind : String) : Flow Unit := ask (.appendAuditEntry actionKind)

/-- The clock of the replica. -/
def now : Flow Instant := ask .now

end Flow

end Fdai.Core
