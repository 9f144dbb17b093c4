import Fdai.Runbook.Runner
import Fdai.Workflow.Cancellation
import Fdai.Workflow.DispatchClaim
import Fdai.Workflow.Regimes

/-!
# The step executor

Executes one step of a compiled workflow: it records that the step starts, judges the
step by its kind (dispatching an enforced action under a claim), and records the result.

The executor works from the snapshot its last transition answered with, the *handle*.
`execute` takes it and returns the next one, so the runner threads it from step to step.
-/

namespace Fdai.Core

open Fdai.Providers Fdai.Concurrency

/-- How outcomes of dispatched actions are verified. -/
inductive VerifierKind where
  /-- The verifier checks claims the context reports. -/
  | verifier
  /-- The verifier resolves outcomes on its own. -/
  | resolver

structure RecoveryCoordinatorConfig where
  claimValidity : ℕ
  dispatchLease : ℕ
  dispatcher : Bool := true
  effectObserver : Bool := true
  effectObservations : Bool := true
  approvalReader : Bool := true
  approvalRequester : Bool := true
  bundleReader : Bool := true
  /-- `str.casefold` of a stripped text. -/
  normalizePrincipal : String → String := id

/-- What an orchestrator is constructed with, and the workflow it runs. -/
structure Environment where
  workflow : Workflow
  /-- The known action types with the parameters each one redacts. -/
  actionTypes : List (String × List String)
  guardEvaluator : Bool := false
  actionDispatcher : Bool := true
  approvalProvider : Bool := false
  evidenceDispatcher : Bool := false
  outcomeVerifier : Option VerifierKind := none
  recoveryCoordinator : Option RecoveryCoordinatorConfig := none
  /-- `action_dispatch_claim_lease`, by default half a minute. -/
  actionDispatchClaimLease : ℕ := 30
  lease_pos : 0 < actionDispatchClaimLease := by decide
  /-- `guard_evidence_max_age`. -/
  guardEvidenceMaxAge : ℕ := 900
  /-- `datetime.fromisoformat`. -/
  parseInstant : String → Option Instant := fun _ => none
  /-- `str.casefold` of a stripped text. -/
  normalizePrincipal : String → String := id

/-- What one executor is constructed with besides its environment. -/
structure Executor where
  env : Environment
  attempt : ℕ
  attempt_pos : 1 ≤ attempt
  context : Context
  now : Instant
  mode : Mode
  /-- The arguments of each step with the context substituted. -/
  params : StepId → Params
  /-- The replica the executor runs in; it only labels what the replica does. -/
  replica : ℕ := 0

/-- `value.strip().lower()` on the letters the callers compare with. -/
def lowered (text : String) : String := String.ofList ((strip text).toList.map Char.toLower)

def truthy (value : Option String) : Bool :=
  value.any fun v => lowered v ∈ ["1", "true", "yes", "received"]

def stepResult (step : RunbookStep) (outcome : RunbookStepOutcome) (reason : String) :
    RunbookStepResult :=
  { stepId := step.id, actionType := step.actionType, outcome, reason := some reason }

/-- The redacted parameters the step actually has. -/
def redactedPaths (env : Environment) (step : RunbookStep) (params : Params) : List String :=
  match env.actionTypes.find? (·.1 = step.actionType) with
  | none => []
  | some (_, paths) => paths.filter fun path => params.any (·.1 = path)

/-- `timed_out`: the step started, according to the context, longer ago than it may take. -/
def timedOut (ex : Executor) (step : RunbookStep) : Bool :=
  match step.timeoutSeconds, ex.context.get ("started_at." ++ step.id) with
  | some seconds, some raw =>
    match ex.env.parseInstant raw with
    | none => true
    | some started => started + seconds ≤ ex.now
  | _, _ => false

/-- Whether a dispatched action's outcome is provable yet. -/
inductive ActionOutcomeResolution where
  | resolved (outcome : ActionOutcome) (safeguardBundleDigest : Option String)
  | waitingForOutcome
  | waitingForVerifier

/-- A text of the context, stripped; `none` where nothing is left. -/
def reported (context : Context) (key : String) : Option String :=
  match context.get key with
  | none => none
  | some raw => if strip raw = "" then none else some (strip raw)

/-- The verifier's word on an outcome; an outage is no acceptance. -/
def verified (step : StepId) (proposalRef : String) (outcome : ActionOutcome)
    (receiptRef : String) : Flow Bool := do
  match ← Flow.ask (.verifyOutcome step proposalRef outcome receiptRef) with
  | .ok accepted => pure accepted
  | .error _ => pure false

def resolveActionOutcome (kind : VerifierKind) (step : StepId) (proposalRef : String)
    (context : Context) : Flow ActionOutcomeResolution :=
  match kind with
  | .resolver => do
    match ← Flow.ask (.resolveOutcome step proposalRef) with
    | .error _ => pure .waitingForVerifier
    | .ok none => pure .waitingForOutcome
    | .ok (some found) =>
      let accepted ← verified step proposalRef found.outcome found.receiptRef
      pure (if accepted then .resolved found.outcome found.safeguardBundleDigest
        else .waitingForVerifier)
  | .verifier =>
    let status := context.get ("action." ++ step ++ ".status")
    let bundle := reported context ("action." ++ step ++ ".safeguard_bundle_digest")
    match reported context ("action." ++ step ++ ".receipt_ref") with
    | none => pure .waitingForOutcome
    | some receiptRef =>
      if status = some "verified" ∧ bundle.isSome then do
        let accepted ← verified step proposalRef .succeeded receiptRef
        pure (if accepted then .resolved .succeeded bundle else .waitingForVerifier)
      else if status = some "failed" then do
        let accepted ← verified step proposalRef .failed receiptRef
        pure (if accepted then .resolved .failed bundle else .waitingForVerifier)
      else pure .waitingForOutcome

/-- The result of a step whose dispatch is on record, and the safeguard bundle its
outcome is bound to. -/
def settleAction (ex : Executor) (step : RunbookStep) (record : ProcessEvent) :
    Flow (RunbookStepResult × Option String) :=
  let proposalRef := strip (record.payload.proposalRef.getD "")
  match ex.env.outcomeVerifier with
  | none => pure (stepResult step .waiting "waiting_for_action_outcome_verifier", none)
  | some kind =>
    if proposalRef = "" then
      pure (stepResult step .waiting "waiting_for_action_outcome_verifier", none)
    else do
      match ← resolveActionOutcome kind step.id proposalRef ex.context with
      | .waitingForOutcome => pure (stepResult step .waiting "waiting_for_action_outcome", none)
      | .waitingForVerifier =>
        pure (stepResult step .waiting "waiting_for_action_outcome_verifier", none)
      | .resolved .failed bundle => pure (stepResult step .failure "action_failed", bundle)
      | .resolved .notAttempted bundle =>
        pure (stepResult step .failure "action_not_attempted", bundle)
      | .resolved .succeeded none =>
        pure (stepResult step .waiting "waiting_for_action_outcome_verifier", none)
      | .resolved .succeeded (some bundle) =>
        pure (stepResult step .success "action_effect_verified", some bundle)

/-- Hand the action to the dispatcher under a claim and record that it was dispatched. -/
def publishAction (ex : Executor) (handle : ProcessSnapshot) (step : RunbookStep)
    (claim : ProcessEvent) : Flow RunbookStepResult := do
  let answer ← Flow.ask (.dispatch
    { stepId := step.id, actionType := step.actionType, params := ex.params step.id
      attempt := ex.attempt, claim := some claim, handle, replica := ex.replica })
  match answer with
  | .error exception => pure (stepResult step .failure ("action_dispatch_failed:" ++ exception))
  | .ok returnedRef =>
    if strip returnedRef = "" then
      pure (stepResult step .failure "action_dispatch_returned_no_reference")
    else do
      let recordedAt ← Flow.now
      let _ ← recordActionDispatched step ex.attempt returnedRef (ex.params step.id) claim
        recordedAt
      pure (stepResult step .waiting "waiting_for_action_outcome")

def dispatchAction (ex : Executor) (handle : ProcessSnapshot) (step : RunbookStep) :
    Flow (RunbookStepResult × Option String) := do
  let events ← Flow.events .plain
  match dispatchEvent events step.id ex.attempt with
  | some record => settleAction ex step record
  | none =>
    if !ex.env.actionDispatcher then
      pure (stepResult step .failure "enforce_action_dispatcher_not_configured", none)
    else do
      let now ← Flow.now
      let claimed ← claimActionDispatch ex.replica step.id ex.attempt
        ("step:" ++ step.id ++ ":attempt:" ++ toString ex.attempt)
        ex.env.actionDispatchClaimLease now
      match claimed with
      | none => pure (stepResult step .waiting "waiting_for_action_dispatch_claim", none)
      | some claim =>
        -- the claim may have been followed by another one since
        let current ← claimIsCurrent claim step.id ex.attempt
        if !current then
          pure (stepResult step .waiting "waiting_for_action_dispatch_claim", none)
        else do
          let result ← publishAction ex handle step claim
          pure (result, none)

/-! ## Approvals -/

/-- The decisions of a mapping: a principal has the last one recorded for it. -/
def decisionsOf (entries : List (String × String)) : List (String × String) :=
  entries.foldl (fun acc entry => acc.filter (·.1 ≠ entry.1) ++ [entry]) []

def approvalResult (env : Environment) (step : RunbookStep) (decisions : List (String × String))
    (requester : String) : RunbookStepResult :=
  if decisions = [] then stepResult step .waiting "waiting_for_approval"
  else
    let approvers := (decisions.filter (·.2 = "approved")).map fun d =>
      env.normalizePrincipal d.1
    let approvedBy := approvers.filter fun approver =>
      approver ≠ "" && !(step.noSelfApproval && approver = env.normalizePrincipal requester)
    if step.quorum ≤ approvedBy.dedup.length then stepResult step .success "approval_recorded"
    else if decisions.any (·.2 = "rejected") then stepResult step .failure "approval_rejected"
    else stepResult step .waiting "waiting_for_approval_quorum"

/-- `approval_decisions`: the decisions a context reports for a step. -/
def approvalDecisions (context : Context) (step : StepId) : List (String × String) :=
  let pre := "approval." ++ step ++ "."
  let decisions := context.filterMap fun (key, value) =>
    if key.startsWith pre && key ≠ pre ++ "started_at" then
      some ((key.drop pre.length).toString, lowered value)
    else none
  match context.get ("approval." ++ step) with
  | none => decisions
  | some legacy =>
    if decisions.any (·.1 = "legacy") then decisions
    else decisions ++ [("legacy", lowered legacy)]

def simulatedApprovalResult (ex : Executor) (step : RunbookStep) : RunbookStepResult :=
  if timedOut ex step then stepResult step .failure "approval_timed_out"
  else approvalResult ex.env step (approvalDecisions ex.context step.id)
    ((ex.context.get "requester.principal").getD "")

/-- `_admitted_approval_result`: a recorded quorum also needs an admission. -/
def admittedApprovalResult (ex : Executor) (step : RunbookStep)
    (approval : WorkflowApprovalSnapshot) : Flow RunbookStepResult :=
  let result := approvalResult ex.env step (decisionsOf (approval.decisions.map fun d =>
      (d.principal, if d.approved then "approved" else "rejected")))
    approval.requesterPrincipal
  if result.outcome ≠ .success then pure result
  else do
    match ← Flow.ask (.approvalRejections approval) with
    | .error _ => pure (stepResult step .failure "approval_evidence_unavailable")
    | .ok [] => pure result
    | .ok (reason :: _) =>
      pure (stepResult step .failure ("approval_evidence_unadmitted:" ++ reason))

/-- The loop that records a timeout: at most `rounds` attempts on a changing approval. -/
def timeOutApproval (ex : Executor) (step : RunbookStep) :
    ℕ → WorkflowApprovalSnapshot → Flow RunbookStepResult
  | 0, _ => pure (stepResult step .failure "approval_evidence_unavailable")
  | rounds + 1, approval =>
    if approval.timedOut then pure (stepResult step .failure "approval_timed_out")
    else if approval.cancelled then
      pure (stepResult step .failure "process_cancellation_requested")
    else do
      let result ← admittedApprovalResult ex step approval
      if result.outcome ≠ .waiting then pure result
      else if !approval.expiresAt.any (· ≤ ex.now) then pure result
      else do
        match ← Flow.ask (.markApprovalTimedOut step.id ex.attempt approval.revision) with
        | .error _ => pure (stepResult step .failure "approval_evidence_unavailable")
        | .ok true => pure (stepResult step .failure "approval_timed_out")
        | .ok false =>
          match ← Flow.ask (.ensureApprovalRequested step.id ex.attempt) with
          | .error _ => pure (stepResult step .failure "approval_evidence_unavailable")
          | .ok again => timeOutApproval ex step rounds again

def durableApprovalResult (ex : Executor) (step : RunbookStep) : Flow RunbookStepResult :=
  let requester := ex.env.normalizePrincipal ((ex.context.get "requester.principal").getD "")
  if !ex.env.approvalProvider then
    pure (stepResult step .failure "approval_provider_not_configured")
  else if requester = "" then
    pure (stepResult step .failure "approval_requester_unavailable")
  else do
    match ← Flow.ask (.ensureApprovalRequested step.id ex.attempt) with
    | .error _ => pure (stepResult step .failure "approval_evidence_unavailable")
    | .ok approval =>
      if approval.cancelled then
        pure (stepResult step .failure "process_cancellation_requested")
      else do
        let result ← admittedApprovalResult ex step approval
        if result.outcome ≠ .waiting then pure result
        else if approval.timedOut || approval.expiresAt.any (· ≤ ex.now) then
          timeOutApproval ex step 8 approval
        else pure result

/-- `_dispatch_evidence`. The receipt names what went wrong where nothing was captured. -/
def dispatchEvidence (ex : Executor) (step : RunbookStep) : Flow RunbookStepResult :=
  if !ex.env.evidenceDispatcher then
    pure (stepResult step .failure "evidence_dispatcher_not_configured")
  else do
    match ← Flow.ask (.captureEvidence step.id) with
    | .error exception =>
      pure (stepResult step .failure ("evidence_capture_failed:" ++ exception))
    | .ok (some problem) => pure (stepResult step .failure ("evidence_" ++ problem))
    | .ok none => pure (stepResult step .success "browser_evidence_captured")

def branchEvent (ex : Executor) (step : RunbookStep) (branch : String)
    (kind : ProcessEventKind) (suffix : String) (recordedAt : Instant) : ProcessEvent :=
  { eventId := .step step.id ex.attempt (.branch branch suffix)
    kind
    idempotencyKey := .event (.step step.id ex.attempt (.branch branch suffix))
    recordedAt
    stepId := some step.id
    attempt := ex.attempt }

/-- The branches of a parallel step, in order; whether all of them succeeded. -/
def runBranches (ex : Executor) (step : RunbookStep) : List String → Flow Bool
  | [] => pure true
  | branch :: rest => do
    let startedAt ← Flow.now
    let _ ← Flow.appendEvent (branchEvent ex step branch .parallelBranchStarted "started" startedAt)
    let failed := ex.context.get ("parallel." ++ step.id ++ "." ++ branch) = some "failed"
    let finishedAt ← Flow.now
    let _ ← Flow.appendEvent
      (if failed then branchEvent ex step branch .parallelBranchFailed "failed" finishedAt
        else branchEvent ex step branch .parallelBranchCompleted "completed" finishedAt)
    let others ← runBranches ex step rest
    pure (!failed && others)

def parallelResult (ex : Executor) (step : RunbookStep) : Flow RunbookStepResult := do
  let completed ← runBranches ex step step.branches
  pure (if completed then stepResult step .success "parallel_branches_completed"
    else stepResult step .failure "parallel_branch_failed")

/-- The judgement of a wait step. -/
def waitResult (ex : Executor) (step : RunbookStep) : RunbookStepResult :=
  let signal := step.waitFor.getD "None"
  if timedOut ex step then stepResult step .failure "wait_timed_out"
  else if truthy (ex.context.get ("signal." ++ signal)) then
    stepResult step .success "wait_signal_received"
  else stepResult step .waiting ("waiting_for:" ++ signal)

/-- The judgement of a decision step. -/
def decisionResult (ex : Executor) (step : RunbookStep) : RunbookStepResult :=
  match ex.context.get ("decision." ++ step.id) with
  | none => stepResult step .waiting "waiting_for_decision"
  | some outcome =>
    if outcome ∉ step.outcomes then stepResult step .failure "invalid_decision_outcome"
    else stepResult step .success ("decision:" ++ outcome)

/-- The judgement of a gate step that its guard did not block. -/
def gateResult (step : RunbookStep) (guardPassed : Option Bool) : RunbookStepResult :=
  match guardPassed with
  | none => stepResult step .waiting "waiting_for_gate_evaluation"
  | some true => stepResult step .success "gate_passed"
  | some false => stepResult step .failure "gate_blocked"

/-- `_control_result`: the result of every kind of step but an action. -/
def controlResult (ex : Executor) (step : RunbookStep) (guardPassed : Option Bool) :
    Flow (Option RunbookStepResult) :=
  match step.kind with
  | .action => pure none
  | .evidence => some <$> dispatchEvidence ex step
  | .parallel => some <$> parallelResult ex step
  | .wait => pure (some (waitResult ex step))
  | .approval =>
    if ex.mode = .enforce then some <$> durableApprovalResult ex step
    else pure (some (simulatedApprovalResult ex step))
  | .decision => pure (some (decisionResult ex step))
  | .gate => pure (some (gateResult step guardPassed))

/-- `_evaluate_guard`: an outdated clock and an outage count as not passed. -/
def evaluateGuard (ex : Executor) (guardRef : String) (step : StepId) : Flow Bool := do
  let now ← Flow.now
  if ex.now + ex.env.guardEvidenceMaxAge < now then pure false
  else
    match ← Flow.ask (.evaluateGuard guardRef step) with
    | .ok passed => pure passed
    | .error _ => pure false

/-- The guard of a step, where it has one and it can be evaluated. -/
def guardOf (ex : Executor) (step : RunbookStep) : Flow (Option Bool) :=
  match step.guardRuleRef with
  | none => pure none
  | some guardRef =>
    if ex.env.guardEvaluator then some <$> evaluateGuard ex guardRef step.id else pure none

/-- What a step whose guard blocked it comes to. -/
def blockedResult (ex : Executor) (step : RunbookStep) : RunbookStepResult :=
  if step.kind = .gate then stepResult step .failure "gate_blocked"
  else match ex.mode with
    | .shadow => stepResult step .success "guard_blocked_shadow_noop"
    | .enforce => stepResult step .failure "guard_blocked_enforce"

/-- The judgement of a step: its result, and the safeguard bundle of a settled action. -/
def judge (ex : Executor) (handle : ProcessSnapshot) (step : RunbookStep)
    (guardPassed : Option Bool) : Flow (RunbookStepResult × Option String) :=
  if guardPassed = some false then pure (blockedResult ex step, none)
  else do
    match ← controlResult ex step guardPassed with
    | some result => pure (result, none)
    | none =>
      if step.kind = .action ∧ ¬ ex.env.actionTypes.any (·.1 = step.actionType) then
        pure (stepResult step .failure "unknown_action_type", none)
      else if step.kind = .action ∧ ex.mode = .enforce then
        if redactedPaths ex.env step (ex.params step.id) ≠ [] then
          pure (stepResult step .failure "workflow_sensitive_params_unsupported", none)
        else dispatchAction ex handle step
      else pure (stepResult step .success "shadow_judge_and_log", none)

/-- `_result_transition`: the event a result is recorded with, and the status it leaves. -/
def resultTransition (step : RunbookStep) (result : RunbookStepResult) :
    ProcessEventKind × ProcessStatus × StepSuffix :=
  match result.outcome with
  | .waiting =>
    if step.kind = .approval then (.approvalRequested, .waiting, .waiting)
    else (.stepWaiting, .waiting, .waiting)
  | .failure =>
    if result.reason = some "wait_timed_out" ∨ result.reason = some "approval_timed_out" then
      (.processTimedOut, .timedOut, .timedOut)
    else (.stepFailed, .running, .failed)
  | .success | .skipped =>
    match step.kind with
    | .approval => (.approvalRecorded, .running, .completed)
    | .decision => (.decisionRecorded, .running, .completed)
    | .wait => (.evidenceAttached, .running, .completed)
    | _ => (.stepCompleted, .running, .completed)

theorem resultTransition_kind (step : RunbookStep) (result : RunbookStepResult) :
    (resultTransition step result).1 ≠ .actionDispatchClaimed ∧
      (resultTransition step result).1 ≠ .actionDispatched := by
  unfold resultTransition
  split
  · split <;> decide
  · split <;> decide
  all_goals split <;> decide

/-- The event of one step transition. -/
def stepEvent (ex : Executor) (kind : ProcessEventKind) (step : StepId) (suffix : StepSuffix)
    (recordedAt : Instant) (payload : EventPayload) : ProcessEvent :=
  { eventId := .step step ex.attempt suffix
    kind
    idempotencyKey := .event (.step step ex.attempt suffix)
    recordedAt
    stepId := some step
    attempt := ex.attempt
    payload }

/-- `_transition` of the executor, from the handle's revision. -/
def stepTransition (ex : Executor) (handle : ProcessSnapshot) (kind : ProcessEventKind)
    (status : ProcessStatus) (step : StepId) (suffix : StepSuffix) (payload : EventPayload) :
    Flow ProcessSnapshot := do
  let recordedAt ← Flow.now
  Flow.transition handle.revision status step (stepEvent ex kind step suffix recordedAt payload)

/-- `execute`. A cancellation that was requested stops the step before it starts. -/
def execute (ex : Executor) (step : RunbookStep) (handle : ProcessSnapshot) :
    Flow (RunbookStepResult × ProcessSnapshot) := do
  let blocked ← cancellationBlocksNewStep step.id
  if blocked then
    pure (stepResult step .failure "process_cancellation_requested", handle)
  else do
    let handle ← stepTransition ex handle .stepStarted .running step.id .started {}
    let guardPassed ← guardOf ex step
    Flow.audit "workflow.step"
    let (result, bundle) ← judge ex handle step guardPassed
    let (kind, status, suffix) := resultTransition step result
    let handle ← stepTransition ex handle kind status step.id suffix
      { reason := result.reason, safeguardBundleDigest := bundle }
    pure (result, handle)

/-! ## What a judgement calls -/

/-- Calls of a judgement that publish nothing: reads and questions, the word of a
verifier, and the events of parallel branches. -/
def Judging : WorkflowOp → Prop
  | .verifyOutcome _ _ _ _ => True
  | .appendEvent event none => event.kind = .parallelBranchStarted ∨
      event.kind = .parallelBranchCompleted ∨ event.kind = .parallelBranchFailed
  | op => Quiet op

section Judging

open Program

variable {ex : Executor} {step : RunbookStep}

theorem settleAction_only (record : ProcessEvent) : Only Judging (settleAction ex step record) := by
  have asked (step : StepId) (proposalRef : String) (outcome : ActionOutcome)
      (receiptRef : String) : Only Judging (verified step proposalRef outcome receiptRef) := by
    refine only_bind (only_invoke trivial) fun answer => ?_
    split <;> trivial
  unfold settleAction
  dsimp only
  split
  · trivial
  split
  · trivial
  refine only_bind ?_ fun resolution => ?_
  · unfold resolveActionOutcome
    split
    · refine only_bind (only_invoke trivial) fun answer => ?_
      split
      · trivial
      · trivial
      · exact only_bind (asked _ _ _ _) fun _ => trivial
    dsimp only
    split
    · trivial
    split
    · exact only_bind (asked _ _ _ _) fun _ => trivial
    split
    · exact only_bind (asked _ _ _ _) fun _ => trivial
    · trivial
  · split <;> trivial

private theorem admittedApprovalResult_only (approval : WorkflowApprovalSnapshot) :
    Only Judging (admittedApprovalResult ex step approval) := by
  unfold admittedApprovalResult
  dsimp only
  split
  · trivial
  refine only_bind (only_invoke trivial) fun answer => ?_
  split <;> trivial

private theorem timeOutApproval_only (rounds : ℕ) (approval : WorkflowApprovalSnapshot) :
    Only Judging (timeOutApproval ex step rounds approval) := by
  induction rounds generalizing approval with
  | zero => trivial
  | succ rounds ih =>
    unfold timeOutApproval
    split
    · trivial
    split
    · trivial
    refine only_bind (admittedApprovalResult_only approval) fun result => ?_
    split
    · trivial
    split
    · trivial
    refine only_bind (only_invoke trivial) fun marked => ?_
    split
    · trivial
    · trivial
    refine only_bind (only_invoke trivial) fun again => ?_
    split
    · trivial
    · exact ih _

private theorem durableApprovalResult_only : Only Judging (durableApprovalResult ex step) := by
  unfold durableApprovalResult
  dsimp only
  split
  · trivial
  split
  · trivial
  refine only_bind (only_invoke trivial) fun requested => ?_
  split
  · trivial
  split
  · trivial
  refine only_bind (admittedApprovalResult_only _) fun result => ?_
  split
  · trivial
  split
  · exact timeOutApproval_only 8 _
  · trivial

private theorem runBranches_only (branches : List String) :
    Only Judging (runBranches ex step branches) := by
  induction branches with
  | nil => trivial
  | cons branch rest ih =>
    have appended {event : ProcessEvent} (kind : Judging (.appendEvent event none)) :
        Only Judging (Flow.appendEvent event) := by
      refine only_bind (only_invoke kind) fun answer => ?_
      split <;> trivial
    refine only_bind (only_invoke trivial) fun startedAt => ?_
    refine only_bind (appended (.inl rfl)) fun _ => ?_
    refine only_bind (only_invoke trivial) fun finishedAt => ?_
    refine only_bind ?_ fun _ => only_bind ih fun _ => trivial
    split
    · exact appended (.inr (.inr rfl))
    · exact appended (.inr (.inl rfl))

/-- Steps of every kind but an action are judged without a dispatch. -/
theorem controlResult_only (guardPassed : Option Bool) :
    Only Judging (controlResult ex step guardPassed) := by
  unfold controlResult
  split
  · trivial
  · refine only_map ?_
    unfold dispatchEvidence
    split
    · trivial
    refine only_bind (only_invoke trivial) fun captured => ?_
    split <;> trivial
  · exact only_map (only_bind (runBranches_only _) fun _ => trivial)
  · trivial
  · split
    · exact only_map durableApprovalResult_only
    · trivial
  · trivial
  · trivial

theorem guardOf_only : Only Judging (guardOf ex step) := by
  unfold guardOf
  split
  · trivial
  split
  · refine only_map (only_bind (only_invoke trivial) fun now => ?_)
    split
    · trivial
    refine only_bind (only_invoke trivial) fun passed => ?_
    split <;> trivial
  · trivial

end Judging

end Fdai.Core
