import Fdai.Providers.Checks
import Fdai.Providers.Text
import Fdai.Providers.Time

/-!
# Background tasks

The records of detached investigations. A record is made of a row whose constructor checks
it, and `replace` runs the checks again: a row that fails one is never a record.

* `BackgroundTaskAttempt` — an attempt of a task; what lease and result it carries goes with
  its status.
* `BackgroundTaskCompletion` — the outbox row of a terminal attempt.
* `BackgroundTaskProgress` — one progress event of an attempt.
-/

namespace Fdai.Core

inductive BackgroundTaskStatus where
  | queued | claimed | running | succeeded | failed | cancelled | timedOut | unknown
  deriving DecidableEq

/-- `TERMINAL_BACKGROUND_STATUSES`. -/
def BackgroundTaskStatus.terminal : BackgroundTaskStatus → Bool
  | .succeeded | .failed | .cancelled | .timedOut | .unknown => true
  | _ => false

/-- `ACTIVE_BACKGROUND_STATUSES`. -/
def BackgroundTaskStatus.active : BackgroundTaskStatus → Bool
  | .queued | .claimed | .running => true
  | _ => false

/-- A status under a lease. -/
def BackgroundTaskStatus.leased : BackgroundTaskStatus → Bool
  | .claimed | .running => true
  | _ => false

inductive BackgroundTaskCompletionState where
  | pending | sending | failed | delivered | abandoned
  deriving DecidableEq

def BackgroundTaskCompletionState.terminal : BackgroundTaskCompletionState → Bool
  | .delivered | .abandoned => true
  | _ => false

inductive ReadInvestigationIntent where
  | resourceState | changeAttribution | resourceChangeHistory | platformHealth | guestShutdown
  | networkSecurity | networkPeering
  deriving DecidableEq

structure BackgroundTaskOrigin where
  conversationId : String
  channelKind : String
  channelId : String
  threadId : Option String := none
  messageId : Option String := none
  deriving DecidableEq

structure BackgroundTaskBudget where
  maxWallSeconds : ℕ := 300
  maxTokens : ℕ := 4096
  maxCostMicrousd : ℕ := 500000
  maxToolCalls : ℕ := 5
  maxProgressEvents : ℕ := 32
  deriving DecidableEq

structure BackgroundReadInvestigationSpec where
  intent : ReadInvestigationIntent
  resourceName : String
  scopeRef : String
  lookbackSeconds : ℕ
  resourceType : Option String := none
  resourceGroup : Option String := none
  explicitDeep : Bool := false
  deriving DecidableEq

/-- `BackgroundTask`. There is one kind of task, and its times are aware. -/
structure BackgroundTask where
  taskId : String
  ownerPrincipalId : String
  origin : BackgroundTaskOrigin
  prompt : String
  contextDigest : String
  capabilityProfileId : String
  budget : BackgroundTaskBudget
  correlationId : String
  idempotencyKey : String
  createdAt : ℤ
  retentionUntil : ℤ
  investigation : Option BackgroundReadInvestigationSpec := none
  accountableAgent : Option String := none
  retryable : Bool := false
  deriving DecidableEq

/-- `_id`: a bounded identifier. -/
def isId (value : String) : Bool :=
  !isBlank value && value.length ≤ 256 && value.toList.all (32 ≤ ·.toNat)

/-- `BackgroundTaskLease`, with what its constructor checks. -/
structure BackgroundTaskLease where
  owner : String
  token : String
  expiresAt : ℤ
  owner_id : isId owner = true
  token_id : isId token = true
  deriving DecidableEq

def BackgroundTaskLease.create (owner token : String) (expiresAt : ℤ) :
    Except String BackgroundTaskLease :=
  if owner_id : isId owner = true then
    if token_id : isId token = true then .ok { owner, token, expiresAt, owner_id, token_id }
    else .error "lease token MUST be a bounded identifier"
  else .error "lease owner MUST be a bounded identifier"

structure BackgroundTaskUsage where
  tokens : ℕ := 0
  costMicrousd : ℕ := 0
  toolCalls : ℕ := 0
  deriving DecidableEq

/-- `BackgroundTaskResult`; a result is never trusted. -/
structure BackgroundTaskResult where
  summary : Option String
  evidenceRefs : List String
  terminalReason : String
  usage : BackgroundTaskUsage
  startedAt : ℤ
  finishedAt : ℤ
  ordered : startedAt ≤ finishedAt
  deriving DecidableEq

/-- The fields of an attempt. -/
structure AttemptRow where
  attemptId : String
  task : BackgroundTask
  status : BackgroundTaskStatus
  revision : ℤ
  updatedAt : ℤ
  lease : Option BackgroundTaskLease := none
  usage : BackgroundTaskUsage := {}
  result : Option BackgroundTaskResult := none
  deriving DecidableEq

def AttemptRow.checks (row : AttemptRow) : List (Bool × String) :=
  [(isId row.attemptId, "attempt_id MUST be a bounded identifier"),
    (0 < row.revision, "attempt_number and revision MUST be positive"),
    (!row.status.leased || (row.lease.isSome && row.result.isNone),
      "claimed/running attempts require a lease and no result"),
    (row.status ≠ .queued || (row.lease.isNone && row.result.isNone),
      "queued attempts cannot have a lease or result"),
    (!row.status.terminal || (row.lease.isNone && row.result.isSome),
      "terminal attempts require a result and no lease")]

/-- `BackgroundTaskAttempt`, a row that passes its checks. -/
structure BackgroundTaskAttempt extends AttemptRow where
  valid : validate toAttemptRow.checks = .ok ()
  deriving DecidableEq

def AttemptRow.create (row : AttemptRow) : Except String BackgroundTaskAttempt :=
  match valid : validate row.checks with
  | .ok () => .ok ⟨row, valid⟩
  | .error message => .error message

theorem AttemptRow.create_of_valid {row : AttemptRow} (valid : validate row.checks = .ok ()) :
    row.create = .ok ⟨row, valid⟩ := by
  unfold create
  split
  · rfl
  rename_i fails
  rw [valid] at fails
  cases fails

theorem AttemptRow.create_eq_ok {row : AttemptRow} {attempt : BackgroundTaskAttempt}
    (created : row.create = .ok attempt) : attempt.toAttemptRow = row := by
  unfold create at created
  split at created
  · rw [← Except.ok.inj created]
  · cases created

/-- An attempt has a name that its outbox row may have too. -/
theorem BackgroundTaskAttempt.id_bounded (attempt : BackgroundTaskAttempt) :
    isId attempt.attemptId = true := by
  have passes := attempt.valid
  unfold AttemptRow.checks at passes
  exact (validate_cons_eq_ok.1 passes).1

/-- An attempt that is only written again passes the checks it passed. -/
theorem BackgroundTaskAttempt.valid_rewritten (attempt : BackgroundTaskAttempt) (updatedAt : ℤ) :
    validate { attempt.toAttemptRow with
      revision := attempt.revision + 1, updatedAt }.checks = .ok () := by
  have passes := attempt.valid
  simp only [AttemptRow.checks, validate_cons_eq_ok, validate_nil, decide_eq_true_eq] at passes ⊢
  obtain ⟨named, positive, shaped⟩ := passes
  exact ⟨named, by omega, shaped⟩

theorem BackgroundTaskStatus.not_terminal_of_leased {status : BackgroundTaskStatus}
    (leased : status.leased = true) : status.terminal = false := by
  cases status <;> simp_all [BackgroundTaskStatus.leased, BackgroundTaskStatus.terminal]

structure BackgroundTaskProgress where
  attemptId : String
  sequence : ℕ
  kind : String
  message : String
  moment : ℤ
  usage : BackgroundTaskUsage

def maxCompletionAttempts : ℕ := 8

/-- The fields of an outbox row. -/
structure CompletionRow where
  attemptId : String
  state : BackgroundTaskCompletionState
  createdAt : ℤ
  dueAt : ℤ
  retentionUntil : ℤ
  attemptCount : ℕ := 0
  lease : Option BackgroundTaskLease := none
  lastErrorCode : Option String := none
  terminalAt : Option ℤ := none

/-- The checks of an outbox row. -/
def CompletionRow.checks (row : CompletionRow) : List (Bool × String) :=
  [(isId row.attemptId, "completion attempt_id MUST be a bounded identifier"),
    (row.createdAt ≤ row.dueAt && row.dueAt ≤ row.retentionUntil,
      "completion timestamps MUST be ordered"),
    (row.attemptCount ≤ maxCompletionAttempts,
      "completion attempt_count is outside the bounded range"),
    (row.state ≠ .sending || row.lease.isSome, "sending completion MUST carry a lease"),
    (row.state ≠ .sending || 1 ≤ row.attemptCount,
      "sending completion MUST count its delivery attempt"),
    (row.state = .sending || row.lease.isNone, "only sending completion can carry a lease"),
    (row.state.terminal = row.terminalAt.isSome, "terminal completion MUST carry terminal_at"),
    (!(row.state = .failed || row.state = .abandoned) || row.lastErrorCode.isSome,
      "failed completion MUST carry last_error_code"),
    (!(row.state = .pending || row.state = .sending || row.state = .delivered) ||
        row.lastErrorCode.isNone,
      "non-failed completion cannot carry last_error_code"),
    (row.lastErrorCode.all isId, "completion last_error_code MUST be a bounded identifier")]

/-- `BackgroundTaskCompletion`, a row that passes its checks. -/
structure BackgroundTaskCompletion extends CompletionRow where
  valid : validate toCompletionRow.checks = .ok ()

def CompletionRow.create (row : CompletionRow) : Except String BackgroundTaskCompletion :=
  match valid : validate row.checks with
  | .ok () => .ok ⟨row, valid⟩
  | .error message => .error message

theorem CompletionRow.create_of_valid {row : CompletionRow}
    (valid : validate row.checks = .ok ()) : row.create = .ok ⟨row, valid⟩ := by
  unfold create
  split
  · rfl
  rename_i fails
  rw [valid] at fails
  cases fails

theorem CompletionRow.create_eq_ok {row : CompletionRow} {completion : BackgroundTaskCompletion}
    (created : row.create = .ok completion) : completion.toCompletionRow = row := by
  unfold create at created
  split at created
  · rw [← Except.ok.inj created]
  · cases created

end Fdai.Core
