import Fdai.Workflow.RecoveryCoordinator

/-!
# Compensation

Undoes what a workflow run applied, in reverse order. `start` records an intent for each
applied step and dispatches it; `resume` dispatches what was left, asks the verifier about
each intent and moves the process to `compensated` once all of them are verified.

A compensation that cannot be completed puts the target under an automation hold *first*
and moves the process to `failed` afterwards. While the target is held, the process is
closed by the recovery path only.
-/

namespace Fdai.Core

open Fdai.Providers Fdai.Concurrency

/-- What a compensation coordinator is constructed with. -/
structure CompensationCoordinator where
  replica : ℕ
  dispatcher : Bool := true
  outcomeVerifier : Option VerifierKind := none
  recoveryCoordinator : Option RecoveryCoordinatorConfig := none
  /-- The digits of a hash. -/
  hexdigest : String → String := id

/-- Where a compensation stands. -/
structure CompensationResult where
  snapshot : ProcessSnapshot
  recoveryIncomplete : Bool := false

def compensationStep (step : StepId) : StepId := "compensate_" ++ step

def compensationStartedEvent (step : StepId) (actionType : String) (params : Params)
    (recordedAt : Instant) : ProcessEvent :=
  { eventId := .compensationStarted step
    kind := .compensationStarted
    idempotencyKey := .event (.compensationStarted step)
    recordedAt
    stepId := some (compensationStep step)
    payload :=
      { compensatesStepId := some step, actionType := some actionType, params := some params } }

def compensationDispatchedEvent (step : StepId) (actionType proposalRef : String)
    (recordedAt : Instant) : ProcessEvent :=
  { eventId := .compensationDispatched step
    kind := .compensationDispatched
    idempotencyKey := .event (.compensationDispatched step)
    recordedAt
    stepId := some (compensationStep step)
    payload :=
      { compensatesStepId := some step, actionType := some actionType
        proposalRef := some proposalRef } }

def compensationCompletedEvent (receiptRefs : List String) (recordedAt : Instant) :
    ProcessEvent :=
  { eventId := .compensationCompleted
    kind := .compensationCompleted
    idempotencyKey := .event .compensationCompleted
    recordedAt
    payload := { receiptRefs } }

/-- A failed compensation carries no attempt of its own: it has the default one. -/
def compensationFailedEvent (revision : ℕ) (reason : String) (recordedAt : Instant) :
    ProcessEvent :=
  { eventId := .compensationFailed revision
    kind := .processFailed
    idempotencyKey := .event (.compensationFailed revision)
    recordedAt
    payload := { reason := some reason } }

/-- `_fail`: the hold comes before the transition. -/
def failCompensation (snapshot : ProcessSnapshot) (reason : String) : Flow ProcessSnapshot := do
  issueHold reason
  let recordedAt ← Flow.now
  let failed ← Flow.transition snapshot.revision .failed ""
    (compensationFailedEvent snapshot.revision reason recordedAt)
  Flow.audit "workflow.compensation.failed"
  pure failed

/-- `_fail`, as the result of a compensation. -/
def incomplete (snapshot : ProcessSnapshot) (reason : String) : Flow CompensationResult := do
  let failed ← failCompensation snapshot reason
  pure { snapshot := failed, recoveryIncomplete := true }

structure CompensationIntent where
  step : StepId
  actionType : String
  params : Params

section

variable (c : CompensationCoordinator)

def recordIntent (snapshot : ProcessSnapshot) (intent : CompensationIntent) :
    Flow ProcessSnapshot := do
  Flow.audit "workflow.compensation.intent"
  let recordedAt ← Flow.now
  Flow.transition snapshot.revision .compensating (compensationStep intent.step)
    (compensationStartedEvent intent.step intent.actionType intent.params recordedAt)

def dispatchIntent (snapshot : ProcessSnapshot) (intent : CompensationIntent) :
    Flow CompensationResult := do
  if !c.dispatcher then incomplete snapshot "compensation_dispatcher_not_configured"
  else do
    match ← Flow.ask (.dispatch
      { stepId := compensationStep intent.step, actionType := intent.actionType
        params := intent.params, attempt := 1, claim := none, handle := snapshot
        replica := c.replica }) with
    | .error exception =>
      incomplete snapshot ("compensation_dispatch_failed:" ++ exception)
    | .ok proposalRef =>
      if strip proposalRef = "" then
        incomplete snapshot "compensation_dispatch_returned_no_reference"
      else do
        let recordedAt ← Flow.now
        let _ ← Flow.appendEvent
          (compensationDispatchedEvent intent.step intent.actionType proposalRef recordedAt)
        pure { snapshot }

/-- The effects the journal says were verified. -/
def appliedEvents (events : List ProcessEvent) : List ProcessEvent :=
  events.filter fun e => e.kind = .stepCompleted ∧ e.stepId.isSome ∧
    e.payload.reason = some "action_effect_verified"

/-- The steps with a verified effect. -/
def appliedSteps (events : List ProcessEvent) : List StepId :=
  (appliedEvents events).filterMap (·.stepId)

/-- The arguments the last dispatch of a step was made with. -/
def dispatchedParams (events : List ProcessEvent) (step : StepId) : Option Params :=
  ((events.filter fun e => e.kind = .actionDispatched ∧ e.stepId = some step).getLast?).bind
    (·.payload.params)

/-- The compensating action type of a step. -/
def compensationOf (compensations : List (StepId × String)) (step : StepId) : Option String :=
  (compensations.find? (·.1 = step)).map (·.2)

/-- The loop of `start`, over the applied steps in reverse. -/
def startIntents (events : List ProcessEvent) (compensations : List (StepId × String)) :
    ProcessSnapshot → List StepId → Flow CompensationResult
  | current, [] => pure { snapshot := current }
  | current, step :: rest => do
    match dispatchedParams events step with
    | none => incomplete current "compensation_params_missing"
    | some params => do
      let intent : CompensationIntent :=
        { step, actionType := (compensationOf compensations step).getD "", params }
      let current ← recordIntent current intent
      let dispatched ← dispatchIntent c current intent
      if dispatched.recoveryIncomplete then pure dispatched
      else startIntents events compensations dispatched.snapshot rest

/-- `start`; `none` where nothing was applied. -/
def startCompensation (snapshot : ProcessSnapshot) (compensations : List (StepId × String)) :
    Flow (Option CompensationResult) := do
  let events ← Flow.events .plain
  let applied := appliedSteps events
  if applied = [] then pure none
  else if applied.any fun step => (compensationOf compensations step).isNone then
    some <$> incomplete snapshot "applied_step_missing_compensation"
  else if (appliedEvents events).any (·.payload.safeguardBundleDigest.isNone) then
    some <$> incomplete snapshot "applied_step_missing_safeguard_bundle"
  else some <$> startIntents c events compensations snapshot applied.reverse

/-! ## Resuming -/

/-- The events that record an intent. -/
def intentEvents (events : List ProcessEvent) : List ProcessEvent :=
  events.filter (·.kind = .compensationStarted)

/-- The step an event of a compensation is about; the empty text where it names none. -/
def compensated (event : ProcessEvent) : StepId := event.payload.compensatesStepId.getD ""

/-- The intent an event records, if it is well formed. -/
def intentOf (event : ProcessEvent) : Option CompensationIntent :=
  let actionType := event.payload.actionType.getD ""
  if compensated event = "" then none
  else if actionType = "" then none
  else event.payload.params.map fun params => { step := compensated event, actionType, params }

/-- The last dispatch of a compensation. -/
def compensationDispatch (events : List ProcessEvent) (step : StepId) : Option ProcessEvent :=
  (events.filter fun e => e.kind = .compensationDispatched ∧ compensated e = step).getLast?

def healReleasedRecovery (snapshot : ProcessSnapshot) : Flow (Option CompensationResult) :=
  match c.recoveryCoordinator with
  | none => pure none
  | some _ => do
    let healed : Except Unit (Option RecoveryCoordinationResult) ←
      Program.tryCatch (Except.ok <$> heal snapshot) fun _ => pure (.error ())
    match healed with
    | .error _ => some <$> incomplete snapshot "workflow_recovery_heal_failed"
    | .ok none => pure none
    | .ok (some healed) => do
      Flow.audit "workflow.compensation.recovery_healed"
      if healed.recoveryIncomplete then
        some <$> incomplete snapshot "workflow_recovery_heal_incomplete"
      else do
        let terminal : Option ProcessSnapshot ← Flow.ask (.getProcess .plain)
        pure ((terminal.filter (·.status.terminal)).map fun snapshot => { snapshot })

/-- The dispatches that are left; a result where one of them failed. -/
def dispatchIntents (events : List ProcessEvent) :
    ProcessSnapshot → List ProcessEvent → Flow CompensationResult
  | current, [] => pure { snapshot := current }
  | current, event :: rest => do
    match intentOf event with
    | none => incomplete current "malformed_compensation_intent"
    | some intent =>
      if (compensationDispatch events intent.step).isSome then
        dispatchIntents events current rest
      else do
        let dispatched ← dispatchIntent c current intent
        if dispatched.recoveryIncomplete then pure dispatched
        else dispatchIntents events dispatched.snapshot rest

/-- What the verification of one intent comes to. -/
inductive IntentCheck where
  /-- `resume` returns. -/
  | returned (result : CompensationResult)
  /-- The verifier gave its word, on an outcome. -/
  | judged (accepted : Bool) (outcome : ActionOutcome) (receiptRef : String)
      (safeguardBundleDigest : Option String)

/-- The verifier's word on an outcome of a compensation; an outage is raised. -/
def verifyCompensation (step : StepId) (proposalRef : String) (outcome : ActionOutcome)
    (receiptRef : String) (bundle : Option String) : Flow IntentCheck := do
  match ← Flow.ask (.verifyOutcome (compensationStep step) proposalRef outcome receiptRef) with
  | .error _ => Program.raise .verifierOutage
  | .ok accepted => pure (.judged accepted outcome receiptRef bundle)

/-- The verification of one intent. What it raises, a failed `_fail` included, its caller
takes for a refusal of the verifier. -/
def checkIntent (kind : VerifierKind) (current : ProcessSnapshot) (step : StepId)
    (proposalRef : String) (context : Context) : Flow IntentCheck :=
  match kind with
  | .resolver => do
    match ← Flow.ask (.resolveOutcome (compensationStep step) proposalRef) with
    | .error _ => Program.raise .verifierOutage
    | .ok none => pure (.returned { snapshot := current })
    | .ok (some found) =>
      verifyCompensation step proposalRef found.outcome found.receiptRef found.safeguardBundleDigest
  | .verifier =>
    let receiptRef := reported context ("compensation." ++ step ++ ".receipt_ref")
    let bundle := reported context ("compensation." ++ step ++ ".safeguard_bundle_digest")
    match context.get ("compensation." ++ step ++ ".status") with
    | none => pure (.returned { snapshot := current })
    | some status =>
      if status ≠ "verified" ∧ status ≠ "failed" then
        .returned <$> incomplete current "compensation_status_invalid"
      else if receiptRef = none ∨ status = "verified" ∧ bundle = none then
        .returned <$> incomplete current "compensation_unscorable"
      else
        verifyCompensation step proposalRef
          (if status = "verified" then .succeeded else .failed) (receiptRef.getD "") bundle

/-- What was verified of the intents: their receipts and safeguard bundles, in order. -/
structure VerifiedIntents where
  receiptRefs : List String := []
  safeguardBundleDigests : List String := []

/-- The verification of the intents, one after the other. -/
def verifyIntents (events : List ProcessEvent) (context : Context) (current : ProcessSnapshot) :
    VerifiedIntents → List ProcessEvent → Flow (CompensationResult ⊕ VerifiedIntents)
  | verified, [] => pure (.inr verified)
  | verified, event :: rest => do
    let step := compensated event
    let proposalRef := strip (((compensationDispatch events step).bind
      (·.payload.proposalRef)).getD "")
    match c.outcomeVerifier with
    | none => .inl <$> incomplete current "compensation_unscorable"
    | some kind =>
      if proposalRef = "" then .inl <$> incomplete current "compensation_unscorable"
      else do
        let check ← Program.tryCatch (checkIntent kind current step proposalRef context)
          fun _ => pure (.judged false .failed "" none)
        match check with
        | .returned result => pure (.inl result)
        | .judged false _ _ _ => .inl <$> incomplete current "compensation_unscorable"
        | .judged true .notAttempted _ _ =>
          .inl <$> incomplete current "compensation_not_attempted"
        | .judged true .failed _ _ => .inl <$> incomplete current "compensation_failed"
        | .judged true .succeeded _ none =>
          .inl <$> incomplete current "compensation_unscorable"
        | .judged true .succeeded receiptRef (some bundle) =>
          verifyIntents events context current
            { receiptRefs := verified.receiptRefs ++ [receiptRef]
              safeguardBundleDigests := verified.safeguardBundleDigests ++ [bundle] }
            rest

def evidenceDigest (value : String) : String :=
  if isBundleDigest value then value else "sha256:" ++ c.hexdigest value

/-- What a recovery of these intents is asked to recover. -/
def recoveryRequest (intents : List ProcessEvent) (verified : VerifiedIntents) :
    RecoveryRequest :=
  let actionType := (intents.getLast?.bind (·.payload.actionType)).getD ""
  { failedCompensationProposalDigest :=
      .pair (.text "workflow-failed-compensation-proposal")
        (.ofTexts (verified.receiptRefs.insertionSort (· ≤ ·)))
    recoveryActionType := if actionType = "" then "workflow.recovery.reconcile" else actionType
    recoveryParams := (intents.getLast?.bind (·.payload.params)).getD []
    compensationReceiptDigests :=
      (verified.safeguardBundleDigests.map (evidenceDigest c)).dedup.insertionSort (· ≤ ·) }

/-- What `_recover_under_hold` comes to. -/
inductive HeldRecovery where
  /-- `resume` returns. -/
  | closed (result : CompensationResult)
  /-- The hold was seen released, at this revision; the process may be terminalized. -/
  | released (seenHold : ℕ)

def recoverUnderHold (snapshot : ProcessSnapshot) (intents : List ProcessEvent)
    (verified : VerifiedIntents) : Flow HeldRecovery :=
  match c.recoveryCoordinator with
  | none => .closed <$> incomplete snapshot "recovery_coordinator_not_configured"
  | some config => do
    let outcome : Except Unit RecoveryCoordinationResult ← Program.tryCatch
        (Except.ok <$> recover c.replica config snapshot (recoveryRequest c intents verified))
        fun _ => pure (.error ())
    match outcome with
    | .error _ => .closed <$> incomplete snapshot "automation_hold_recovery_failed"
    | .ok outcome => do
      Flow.audit "workflow.compensation.recovery"
      if outcome.recoveryIncomplete then
        .closed <$> incomplete snapshot "automation_hold_release_failed"
      else do
        let hold ← Flow.read .hold
        if isHeld hold then
          .closed <$> incomplete snapshot "automation_hold_release_failed"
        else if outcome.disposition = .notRequired then
          pure (.released (holdRevisionOf hold))
        else do
          let terminal : Option ProcessSnapshot ← Flow.ask (.getProcess .plain)
          match terminal.filter (·.status.terminal) with
          | some snapshot => pure (.closed { snapshot })
          | none => pure (.released (holdRevisionOf hold))

/-- The transition that ends a compensation all of whose intents were verified. -/
def complete (current : ProcessSnapshot) (verified : VerifiedIntents) (seenHold : ℕ) :
    Flow CompensationResult := do
  let recordedAt ← Flow.now
  let completed ← Flow.transition current.revision .compensated ""
    (compensationCompletedEvent verified.receiptRefs recordedAt) seenHold
  Flow.audit "workflow.compensation.verified"
  pure { snapshot := completed }

/-- The end of `resume`, once every intent is verified. -/
def closeCompensation (current : ProcessSnapshot) (intents : List ProcessEvent)
    (verified : VerifiedIntents) : Flow CompensationResult := do
  let hold ← Flow.read .hold
  if isHeld hold then do
    match ← recoverUnderHold c current intents verified with
    | .closed result => pure result
    | .released seenHold => do
      let refreshed : Option ProcessSnapshot ← Flow.ask (.getProcess .plain)
      match refreshed with
      | none => complete current verified seenHold
      | some refreshed =>
        if refreshed.status.terminal then pure { snapshot := refreshed }
        else complete refreshed verified seenHold
  else complete current verified (holdRevisionOf hold)

/-- `resume`. -/
def resumeCompensation (snapshot : ProcessSnapshot) (context : Context) :
    Flow CompensationResult := do
  let events ← Flow.events .resumeCompensation
  let intents := intentEvents events
  if intents = [] then incomplete snapshot "compensation_intent_missing"
  else do
    match ← healReleasedRecovery c snapshot with
    | some repaired => pure repaired
    | none => do
      let dispatched ← dispatchIntents c events snapshot intents
      if dispatched.recoveryIncomplete then pure dispatched
      else do
        match ← verifyIntents c events context dispatched.snapshot {} intents with
        | .inl result => pure result
        | .inr verified => closeCompensation c dispatched.snapshot intents verified

/-- What the orchestrator does with a process that is compensating: the compensation
resumes from the snapshot that was read. -/
def takeUpCompensation (context : Context) : Flow (Option CompensationResult) := do
  let snapshot : Option ProcessSnapshot ← Flow.ask (.getProcess .plain)
  match snapshot.filter (·.status = .compensating) with
  | none => pure none
  | some snapshot => some <$> resumeCompensation c snapshot context

end

/-- A replica that takes up the compensation. -/
def compensationReplica (replica : ℕ) (call : CompensationCoordinator × Context) :
    Flow (Option CompensationResult) :=
  takeUpCompensation { call.1 with replica } call.2

/-- A request to start a compensation. -/
structure CompensationStart where
  coordinator : CompensationCoordinator
  snapshot : ProcessSnapshot
  /-- The compensating action type of each step that has one. -/
  compensations : List (StepId × String)

def startReplica (replica : ℕ) (call : CompensationStart) : Flow (Option CompensationResult) :=
  startCompensation { call.coordinator with replica } call.snapshot call.compensations

/-- The process is being compensated. -/
def isCompensating (w : World) : Bool := w.process.snapshot.any (·.status = .compensating)

/-- The process is compensated. -/
def isCompensated (w : World) : Bool := w.process.snapshot.any (·.status = .compensated)

end Fdai.Core
