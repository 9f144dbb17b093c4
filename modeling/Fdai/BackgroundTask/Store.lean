import Mathlib.Algebra.GroupWithZero.Nat
import Mathlib.Data.List.Sort
import Fdai.BackgroundTask.Models
import Fdai.Sequences.Keyed

/-!
# The background task store

Attempts, their outbox rows, their progress events and the marks of audited creations, in
dictionaries that one lock guards: an operation runs to its end before the next one starts.
An operation that raises leaves behind what it has written by then.

* `BackgroundTaskStore` — the dictionaries.
* `create` … `purgeRetained` — the operations that write.
* `BackgroundTaskRequest.apply` — one operation on a store, `BackgroundTaskStore.run` — any
  number of them.
-/

namespace Fdai.Core

open Fdai.Sequences

/-! ## Errors -/

/-- What an operation raises. -/
inductive BackgroundTaskError where
  | value (message : String)
  | conflict (message : String)
  | permission (message : String)
  | quotaExceeded (message : String)
  /-- A datetime without a time zone was compared with one that has one. -/
  | type
  /-- A dictionary has no such key. -/
  | key (key : String)
  | creationNotFound
  | taskNotFound (taskId : String)
  | attemptNotFound (attemptId : String)
  | completionNotFound (attemptId : String)

namespace BackgroundTask

/-- A check that raises a `ValueError`. -/
def checked {α : Type} : Except String α → Except BackgroundTaskError α
  | .ok value => .ok value
  | .error message => .error (.value message)

/-- `deadline <= now`. -/
def isDue (deadline : ℤ) : Datetime → Except BackgroundTaskError Bool
  | .aware instant => .ok (deadline ≤ instant)
  | .naive _ => .error .type

def awareInput (name : String) : Datetime → Except BackgroundTaskError ℤ
  | .aware instant => .ok instant
  | .naive _ => .error (.value (name ++ " MUST be timezone-aware"))

/-- `_limit`. -/
def checkLimit (value maximum : ℤ) : Except BackgroundTaskError Unit :=
  if 1 ≤ value ∧ value ≤ maximum then .ok ()
  else .error (.value ("limit MUST be in [1, " ++ toString maximum ++ "]"))

/-- A span of whole seconds, in microseconds. -/
def seconds (n : ℤ) : ℤ := n * 1000000

def leaseInput (coordinator leaseToken : String) (now : Datetime) (leaseSeconds : ℤ) :
    Except BackgroundTaskError ℤ :=
  match now with
  | .aware instant =>
    if coordinator ≠ "" ∧ leaseToken ≠ "" ∧ 1 ≤ leaseSeconds ∧ leaseSeconds ≤ 300 then .ok instant
    else .error (.value "background task lease input is invalid")
  | .naive _ => .error (.value "background task lease input is invalid")

/-- The order of a sort by a time and a name. -/
def comesFirst (one other : ℤ × String) : Bool :=
  one.1 < other.1 || (one.1 = other.1 && one.2 ≤ other.2)

/-- `sorted(values, key=...)`. -/
def sortedBy {α : Type} (key : α → ℤ × String) (values : List α) : List α :=
  values.insertionSort fun one other => comesFirst (key one) (key other) = true

/-- The values with a deadline that is over. A datetime without a time zone is compared with
the first deadline there is. -/
def due {α : Type} (deadlines : α → List ℤ) (now : Datetime) (values : List α) :
    Except BackgroundTaskError (List α) :=
  match now with
  | .aware instant => .ok (values.filter fun value => (deadlines value).any (· ≤ instant))
  | .naive _ => if values.all fun value => (deadlines value).isEmpty then .ok [] else .error .type

end BackgroundTask

open BackgroundTask

structure BackgroundTaskQuotaPolicy where
  maxActiveTasks : ℕ := 2
  maxDailyCostMicrousd : ℕ := 1000000
  maxWallSecondsPerTask : ℕ := 300
  maxToolCallsPerTask : ℕ := 5

structure BackgroundTaskQuotaUsage where
  activeTasks : ℕ
  dailyCostMicrousd : ℕ

def enforceBackgroundTaskQuota (policy : BackgroundTaskQuotaPolicy)
    (budget : BackgroundTaskBudget) (usage : BackgroundTaskQuotaUsage) :
    Except BackgroundTaskError Unit :=
  validate [ (budget.maxWallSeconds ≤ policy.maxWallSecondsPerTask,
      .quotaExceeded "read investigation wall-clock quota exceeded"),
    (budget.maxToolCalls ≤ policy.maxToolCallsPerTask,
      .quotaExceeded "read investigation tool-call quota exceeded"),
    (usage.activeTasks < policy.maxActiveTasks,
      .quotaExceeded "read investigation concurrency quota exceeded"),
    (usage.dailyCostMicrousd + budget.maxCostMicrousd ≤ policy.maxDailyCostMicrousd,
      .quotaExceeded "read investigation daily cost quota exceeded")]

/-- A day, in microseconds. -/
def dayLength : ℤ := 86400000000

/-- `background_task_quota_usage`, of the day of an instant. -/
def backgroundTaskQuotaUsage (attempts : List BackgroundTaskAttempt) (now : ℤ) :
    BackgroundTaskQuotaUsage where
  activeTasks := (attempts.filter (·.status.active)).length
  dailyCostMicrousd :=
    let today := attempts.filter fun attempt =>
      attempt.task.createdAt / dayLength = now / dayLength
    (today.map fun attempt =>
      if attempt.status.active then attempt.task.budget.maxCostMicrousd
      else attempt.usage.costMicrousd).sum

def backgroundTaskQuotaTime (task : BackgroundTask) : Datetime → Except BackgroundTaskError ℤ
  | .naive _ => .error (.value "background task store clock MUST be timezone-aware")
  | .aware now =>
    if seconds 300 < (task.createdAt - now).natAbs then
      .error (.value "background task created_at MUST be within 300 seconds of server time")
    else .ok now

structure BackgroundTaskStore where
  attempts : Keyed fun attempt : BackgroundTaskAttempt => attempt.attemptId := Keyed.empty
  attemptByTask : String → Option String := fun _ => none
  idempotency : String × String → Option String := fun _ => none
  progress : String → Option (List BackgroundTaskProgress) := fun _ => none
  completions : Keyed fun completion : BackgroundTaskCompletion => completion.attemptId :=
    Keyed.empty
  creationAudited : List String := []

/-- What an operation returns or raises, and the store it leaves. -/
abbrev Stored (α : Type) := Except BackgroundTaskError α × BackgroundTaskStore

namespace BackgroundTaskStore

variable (store : BackgroundTaskStore)

/-- Write, once it is decided what. -/
def commit {α β : Type} (decided : Except BackgroundTaskError β) (write : β → Stored α) :
    Stored α :=
  match decided with
  | .ok value => write value
  | .error error => (.error error, store)

def required (attemptId : String) : Except BackgroundTaskError BackgroundTaskAttempt :=
  match store.attempts.get attemptId with
  | some attempt => .ok attempt
  | none => .error (.attemptNotFound attemptId)

/-- The dictionary key of the owner's idempotency key. -/
def dedupKey (task : BackgroundTask) : String × String :=
  (task.ownerPrincipalId, task.idempotencyKey)

/-- The attempt a task starts with. -/
def newAttempt (task : BackgroundTask) : Except String BackgroundTaskAttempt :=
  { attemptId := task.taskId ++ ":1", task, status := .queued, revision := 1
    updatedAt := task.createdAt : AttemptRow }.create

/-- Store an attempt in place of the one with its id. -/
def putAttempt (attempt : BackgroundTaskAttempt) : BackgroundTaskStore :=
  { store with attempts := store.attempts.put attempt }

/-- Enter an attempt into the dictionaries. -/
def enter (attempt : BackgroundTaskAttempt) (requiresCreationAudit : Bool) :
    BackgroundTaskStore :=
  { store with
    attempts := store.attempts.put attempt
    attemptByTask := Function.update store.attemptByTask attempt.task.taskId attempt.attemptId
    idempotency := Function.update store.idempotency (dedupKey attempt.task) attempt.attemptId
    progress := Function.update store.progress attempt.attemptId (some [])
    creationAudited :=
      if requiresCreationAudit then store.creationAudited
      else attempt.attemptId :: store.creationAudited }

def checkQuota (task : BackgroundTask) (clock : Datetime) :
    Option BackgroundTaskQuotaPolicy → Except BackgroundTaskError Unit
  | none => .ok ()
  | some policy => do
    let quotaNow ← backgroundTaskQuotaTime task clock
    let ownerAttempts := store.attempts.values.filter
      (·.task.ownerPrincipalId = task.ownerPrincipalId)
    enforceBackgroundTaskQuota policy task.budget (backgroundTaskQuotaUsage ownerAttempts quotaNow)

/-- `create`; the store's own clock is read for a quota only. -/
def create (task : BackgroundTask) (quota : Option BackgroundTaskQuotaPolicy)
    (requiresCreationAudit : Bool) (clock : Datetime) : Stored (BackgroundTaskAttempt × Bool) :=
  match store.idempotency (dedupKey task) with
  | some priorId =>
    match store.attempts.get priorId with
    | none => (.error (.key priorId), store)
    | some prior =>
      if prior.task ≠ task then
        (.error (.conflict "background task idempotency key reused with another task"), store)
      else (.ok (prior, false), store)
  | none =>
    if store.attemptByTask task.taskId ≠ none then
      (.error (.conflict "background task id already exists"), store)
    else
      store.commit (do
        store.checkQuota task clock quota
        checked (newAttempt task)) fun attempt =>
        (.ok (attempt, true), store.enter attempt requiresCreationAudit)

/-- The attempt of a task, or the error of an operation that finds none. -/
def attemptOfTask (taskId : String) (missing : BackgroundTaskError) :
    Except BackgroundTaskError BackgroundTaskAttempt :=
  match store.attemptByTask taskId with
  | none => .error missing
  | some attemptId =>
    match store.attempts.get attemptId with
    | none => .error (.key attemptId)
    | some current => .ok current

def markCreationAudited (taskId : String) (now : Datetime) : Stored BackgroundTaskAttempt :=
  store.commit (do
    let instant ← awareInput "creation audit time" now
    let current ← store.attemptOfTask taskId .creationNotFound
    .ok (instant, current)) fun (instant, current) =>
  if current.attemptId ∈ store.creationAudited then (.ok current, store)
  else
    -- the mark is there before the attempt is built
    let marked := { store with creationAudited := current.attemptId :: store.creationAudited }
    marked.commit (checked { current.toAttemptRow with
        revision := current.revision + 1
        updatedAt := max instant current.updatedAt }.create) fun updated =>
      (.ok updated, marked.putAttempt updated)

def claimNext (coordinator leaseToken : String) (now : Datetime) (leaseSeconds : ℤ) :
    Stored (Option BackgroundTaskAttempt) :=
  store.commit (leaseInput coordinator leaseToken now leaseSeconds) fun instant =>
    let queued := sortedBy (fun attempt => (attempt.task.createdAt, attempt.attemptId))
      (store.attempts.values.filter fun attempt =>
        attempt.status = .queued && attempt.attemptId ∈ store.creationAudited)
    match queued with
    | [] => (.ok none, store)
    | current :: _ =>
      store.commit (do
        let lease ← checked (BackgroundTaskLease.create coordinator leaseToken
          (instant + seconds leaseSeconds))
        checked { current.toAttemptRow with
          status := .claimed
          revision := current.revision + 1
          updatedAt := instant
          lease := some lease }.create) fun claimed =>
        (.ok (some claimed), store.putAttempt claimed)

def held (current : BackgroundTaskAttempt) (expectedRevision : ℤ) (leaseToken : String)
    (now : Datetime) (statuses : List BackgroundTaskStatus) :
    Except BackgroundTaskError (BackgroundTaskLease × ℤ) := do
  let conflict : BackgroundTaskError := .conflict "background task lease or revision conflict"
  if current.revision ≠ expectedRevision ∨ current.status ∉ statuses then .error conflict
  else
    match current.lease with
    | none => .error conflict
    | some lease =>
      if lease.token ≠ leaseToken then .error conflict
      else
        match now with
        | .naive _ => .error .type
        | .aware instant =>
          if lease.expiresAt ≤ instant then .error conflict else .ok (lease, instant)

def leased (attemptId : String) (expectedRevision : ℤ) (leaseToken : String) (now : Datetime)
    (statuses : List BackgroundTaskStatus) :
    Except BackgroundTaskError (BackgroundTaskAttempt × BackgroundTaskLease × ℤ) := do
  let current ← store.required attemptId
  let (lease, instant) ← held current expectedRevision leaseToken now statuses
  .ok (current, lease, instant)

def start (attemptId : String) (expectedRevision : ℤ) (leaseToken : String) (now : Datetime) :
    Stored BackgroundTaskAttempt :=
  store.commit (do
    let (current, _, instant) ← store.leased attemptId expectedRevision leaseToken now [.claimed]
    checked { current.toAttemptRow with
      status := .running
      revision := current.revision + 1
      updatedAt := instant }.create) fun updated => (.ok updated, store.putAttempt updated)

def renew (attemptId : String) (expectedRevision : ℤ) (leaseToken : String) (now : Datetime)
    (leaseSeconds : ℤ) (usage : BackgroundTaskUsage) : Stored BackgroundTaskAttempt :=
  store.commit (do
    let _ ← leaseInput "coordinator" leaseToken now leaseSeconds
    let (current, lease, instant) ← store.leased attemptId expectedRevision leaseToken now
      [.claimed, .running]
    checked { current.toAttemptRow with
      revision := current.revision + 1
      updatedAt := instant
      usage
      lease := some { lease with expiresAt := instant + seconds leaseSeconds } }.create)
    fun updated => (.ok updated, store.putAttempt updated)

def putCompletion (attempt : BackgroundTaskAttempt) (now : ℤ) : Stored Unit :=
  if !attempt.status.terminal then
    (.error (.value "completion outbox requires a terminal attempt"), store)
  else if store.completions.get attempt.attemptId ≠ none then (.ok (), store)
  else
    store.commit (checked { attemptId := attempt.attemptId, state := .pending, createdAt := now
                            dueAt := now, retentionUntil := max attempt.task.retentionUntil now :
                            CompletionRow }.create) fun completion =>
      (.ok (), { store with completions := store.completions.put completion })

/-- Store a terminal attempt, then its outbox row. -/
def settle (updated : BackgroundTaskAttempt) : Stored BackgroundTaskAttempt :=
  let (done, settled) := (store.putAttempt updated).putCompletion updated updated.updatedAt
  (done.map fun _ => updated, settled)

def complete (attemptId : String) (expectedRevision : ℤ) (leaseToken : String)
    (status : BackgroundTaskStatus) (result : BackgroundTaskResult) (now : Datetime) :
    Stored BackgroundTaskAttempt :=
  if !status.terminal then (.error (.value "completion status MUST be terminal"), store)
  else
    store.commit (do
      let (current, _, instant) ← store.leased attemptId expectedRevision leaseToken now
        [.claimed, .running]
      checked { current.toAttemptRow with
        status
        revision := current.revision + 1
        updatedAt := instant
        lease := none
        usage := result.usage
        result := some result }.create) store.settle

/-- An attempt that the store ends by itself. -/
def ended (current : BackgroundTaskAttempt) (status : BackgroundTaskStatus)
    (terminalReason : String) (now : Datetime) :
    Except BackgroundTaskError BackgroundTaskAttempt := do
  let startedAt := max current.task.createdAt current.updatedAt
  match now with
  | .naive _ => .error .type
  | .aware instant =>
    let result : BackgroundTaskResult :=
      { summary := none, evidenceRefs := [], terminalReason, usage := current.usage, startedAt
        finishedAt := max instant startedAt, ordered := le_max_right _ _ }
    checked { current.toAttemptRow with
      status
      revision := current.revision + 1
      updatedAt := max instant current.updatedAt
      lease := none
      result := some result }.create

def cancel (taskId actor : String) (isAdmin : Bool) (now : Datetime) :
    Stored BackgroundTaskAttempt :=
  store.commit (store.attemptOfTask taskId (.taskNotFound taskId)) fun current =>
    if actor ≠ current.task.ownerPrincipalId ∧ isAdmin = false then
      (.error (.permission "background task cancellation owner mismatch"), store)
    else if current.status.terminal then (.ok current, store)
    else store.commit (ended current .cancelled "cancelled_by_operator" now) store.settle

def leaseDeadline (attempt : BackgroundTaskAttempt) : List ℤ :=
  if attempt.status.leased then (attempt.lease.map (·.expiresAt)).toList else []

/-- The loop of `reconcile_expired`. -/
def reconcileEach (now : Datetime) :
    List BackgroundTaskAttempt → BackgroundTaskStore → Stored (List BackgroundTaskAttempt)
  | [], store => (.ok [], store)
  | current :: rest, store =>
    let (reconciled, store) :=
      store.commit (ended current .unknown "process_lost" now) store.settle
    match reconciled with
    | .error error => (.error error, store)
    | .ok updated =>
      let (others, store) := reconcileEach now rest store
      (others.map (updated :: ·), store)

def reconcileExpired (now : Datetime) (limit : ℤ) : Stored (List BackgroundTaskAttempt) :=
  store.commit (do
    checkLimit limit 1000
    let expired ← due leaseDeadline now store.attempts.values
    .ok ((sortedBy (fun attempt => (((attempt.lease.map (·.expiresAt)).getD 0), attempt.attemptId))
      expired).take limit.toNat)) fun candidates => reconcileEach now candidates store

def appendProgress (progress : BackgroundTaskProgress) : Stored BackgroundTaskProgress :=
  store.commit (do
    let attempt ← store.required progress.attemptId
    if attempt.status.terminal then
      .error (.conflict "background task progress cannot be appended after terminal state")
    else
      match store.progress progress.attemptId with
      | none => .error (.key progress.attemptId)
      | some events =>
        if attempt.task.budget.maxProgressEvents ≤ events.length then
          .error (.conflict "background task progress cap reached")
        else if progress.sequence ≠ events.length then
          .error (.conflict "background task progress sequence conflict")
        else .ok events) fun events =>
    (.ok progress,
      { store with
        progress := Function.update store.progress progress.attemptId
          (some (events ++ [progress])) })

/-! ### The outbox -/

/-- Store an outbox row in place of the one with its id. -/
def putRow (completion : BackgroundTaskCompletion) : BackgroundTaskStore :=
  { store with completions := store.completions.put completion }

def claimCompletion (coordinator leaseToken : String) (now : Datetime) (leaseSeconds : ℤ) :
    Stored (Option (BackgroundTaskCompletion × BackgroundTaskAttempt)) :=
  store.commit (leaseInput coordinator leaseToken now leaseSeconds) fun instant =>
    let candidates := sortedBy (fun completion => (completion.dueAt, completion.attemptId))
      (store.completions.values.filter fun completion =>
        (completion.state = .pending || completion.state = .failed) &&
          completion.dueAt ≤ instant && completion.attemptCount < maxCompletionAttempts)
    match candidates with
    | [] => (.ok none, store)
    | current :: _ =>
      store.commit (do
        let lease ← checked (BackgroundTaskLease.create coordinator leaseToken
          (instant + seconds leaseSeconds))
        checked { current.toCompletionRow with
          state := .sending
          attemptCount := current.attemptCount + 1
          lease := some lease
          lastErrorCode := none }.create) fun claimed =>
        ((store.required current.attemptId).map fun attempt => some (claimed, attempt),
          store.putRow claimed)

def completionLeased (attemptId leaseToken : String) (now : Datetime) :
    Except BackgroundTaskError (BackgroundTaskCompletion × ℤ) :=
  let conflict : BackgroundTaskError := .conflict "background completion lease conflict"
  match store.completions.get attemptId with
  | none => .error (.completionNotFound attemptId)
  | some current =>
    if current.state ≠ .sending then .error conflict
    else
      match current.lease with
      | none => .error conflict
      | some lease =>
        if lease.token ≠ leaseToken then .error conflict
        else
          match now with
          | .naive _ => .error .type
          | .aware instant =>
            if lease.expiresAt ≤ instant then .error conflict else .ok (current, instant)

/-- The row a delivery that is over leaves. -/
def finishedRow (current : BackgroundTaskCompletion) (instant : ℤ) (delivered : Bool)
    (retryAt : Option Datetime) (errorCode : Option String) :
    Except BackgroundTaskError BackgroundTaskCompletion :=
  if delivered then
    if retryAt ≠ none ∨ errorCode ≠ none then
      .error (.value "delivered completion cannot carry retry details")
    else
      checked { current.toCompletionRow with
        state := .delivered, lease := none, terminalAt := some instant }.create
  else
    match retryAt, errorCode with
    | some retryAt, some errorCode => do
      let retryAt ← awareInput "completion retry_at" retryAt
      let abandon : Bool := maxCompletionAttempts ≤ current.attemptCount ||
        current.retentionUntil ≤ retryAt
      checked { current.toCompletionRow with
        state := if abandon then .abandoned else .failed
        dueAt := min retryAt current.retentionUntil
        lease := none
        lastErrorCode := some errorCode
        terminalAt := if abandon then some instant else none }.create
    | _, _ => .error (.value "failed completion requires retry_at and error_code")

def finishCompletion (attemptId leaseToken : String) (delivered : Bool) (now : Datetime)
    (retryAt : Option Datetime) (errorCode : Option String) : Stored BackgroundTaskCompletion :=
  store.commit (do
    let (current, instant) ← store.completionLeased attemptId leaseToken now
    finishedRow current instant delivered retryAt errorCode) fun updated =>
    (.ok updated, store.putRow updated)

/-- The deadlines of an outbox row that is not terminal. -/
def rowDeadlines (completion : BackgroundTaskCompletion) : List ℤ :=
  (if completion.state = .sending then (completion.lease.map (·.expiresAt)).toList else []) ++
    (if completion.state.terminal then [] else [completion.retentionUntil])

/-- The row of a delivery that was lost, or whose retention is over. -/
def lostRow (current : BackgroundTaskCompletion) (now : Datetime) :
    Except BackgroundTaskError BackgroundTaskCompletion :=
  match now with
  | .naive _ => .error .type
  | .aware instant =>
    let abandon : Bool := maxCompletionAttempts ≤ current.attemptCount ||
      current.retentionUntil ≤ instant
    checked { current.toCompletionRow with
      state := if abandon then .abandoned else .failed
      dueAt := min instant current.retentionUntil
      lease := none
      lastErrorCode :=
        some (if current.retentionUntil ≤ instant then "retention_expired" else "process_lost")
      terminalAt := if abandon then some instant else none }.create

/-- The loop of `reconcile_completion_expired`. -/
def reconcileRows (now : Datetime) :
    List BackgroundTaskCompletion → BackgroundTaskStore → Stored (List BackgroundTaskCompletion)
  | [], store => (.ok [], store)
  | current :: rest, store =>
    let (reconciled, store) := store.commit (lostRow current now) fun updated =>
      (.ok updated, store.putRow updated)
    match reconciled with
    | .error error => (.error error, store)
    | .ok updated =>
      let (others, store) := reconcileRows now rest store
      (others.map (updated :: ·), store)

def reconcileCompletionExpired (now : Datetime) (limit : ℤ) :
    Stored (List BackgroundTaskCompletion) :=
  store.commit (do
    checkLimit limit 1000
    let expired ← due rowDeadlines now store.completions.values
    .ok ((sortedBy (fun completion => (completion.retentionUntil, completion.attemptId))
      expired).take limit.toNat)) fun candidates => reconcileRows now candidates store

/-- The five `pop`s of one attempt: a key that is not there stops them. -/
def purgeOne (attempt : BackgroundTaskAttempt) : Stored Unit :=
  let attemptId := attempt.attemptId
  let task := attempt.task
  if store.attempts.get attemptId = none then (.error (.key attemptId), store)
  else
    let store := { store with attempts := store.attempts.erase attemptId }
    if store.attemptByTask task.taskId = none then (.error (.key task.taskId), store)
    else
      let store :=
        { store with attemptByTask := Function.update store.attemptByTask task.taskId none }
      if store.idempotency (dedupKey task) = none then (.error (.key task.idempotencyKey), store)
      else
        let store :=
          { store with idempotency := Function.update store.idempotency (dedupKey task) none }
        if store.progress attemptId = none then (.error (.key attemptId), store)
        else
          let store := { store with progress := Function.update store.progress attemptId none }
          if store.completions.get attemptId = none then (.error (.key attemptId), store)
          else (.ok (), { store with completions := store.completions.erase attemptId })

/-- The loop of `purge_retained`. -/
def purgeEach : List BackgroundTaskAttempt → BackgroundTaskStore → Stored (List String)
  | [], store => (.ok [], store)
  | attempt :: rest, store =>
    let (popped, store) := store.purgeOne attempt
    match popped with
    | .error error => (.error error, store)
    | .ok () =>
      let (others, store) := purgeEach rest store
      (others.map (attempt.task.taskId :: ·), store)

/-- The deadline of a terminal attempt. -/
def retentionDeadline (attempt : BackgroundTaskAttempt) : List ℤ :=
  if attempt.status.terminal then [attempt.task.retentionUntil] else []

def purgeRetained (now : Datetime) (limit : ℤ) : Stored (List String) :=
  store.commit (do
    checkLimit limit 1000
    let retained ← due retentionDeadline now store.attempts.values
    let candidates := retained.filter fun attempt =>
      (store.completions.get attempt.attemptId).any (·.state.terminal)
    .ok ((sortedBy (fun attempt => (attempt.task.retentionUntil, attempt.attemptId))
      candidates).take limit.toNat)) fun candidates => purgeEach candidates store

end BackgroundTaskStore

/-- An operation that writes, with its arguments and what it reads off a clock. -/
inductive BackgroundTaskRequest where
  | create (task : BackgroundTask) (quota : Option BackgroundTaskQuotaPolicy)
      (requiresCreationAudit : Bool) (clock : Datetime)
  | markCreationAudited (taskId : String) (now : Datetime)
  | claimNext (coordinator leaseToken : String) (now : Datetime) (leaseSeconds : ℤ)
  | start (attemptId : String) (expectedRevision : ℤ) (leaseToken : String) (now : Datetime)
  | renew (attemptId : String) (expectedRevision : ℤ) (leaseToken : String) (now : Datetime)
      (leaseSeconds : ℤ) (usage : BackgroundTaskUsage)
  | complete (attemptId : String) (expectedRevision : ℤ) (leaseToken : String)
      (status : BackgroundTaskStatus) (result : BackgroundTaskResult) (now : Datetime)
  | cancel (taskId actor : String) (isAdmin : Bool) (now : Datetime)
  | appendProgress (progress : BackgroundTaskProgress)
  | reconcileExpired (now : Datetime) (limit : ℤ)
  | claimCompletion (coordinator leaseToken : String) (now : Datetime) (leaseSeconds : ℤ)
  | finishCompletion (attemptId leaseToken : String) (delivered : Bool) (now : Datetime)
      (retryAt : Option Datetime) (errorCode : Option String)
  | reconcileCompletionExpired (now : Datetime) (limit : ℤ)
  | purgeRetained (now : Datetime) (limit : ℤ)

/-- The store after one operation, whether it returns or raises. -/
def BackgroundTaskRequest.apply (request : BackgroundTaskRequest) (store : BackgroundTaskStore) :
    BackgroundTaskStore :=
  match request with
  | .create task quota requiresCreationAudit clock =>
    (store.create task quota requiresCreationAudit clock).2
  | .markCreationAudited taskId now => (store.markCreationAudited taskId now).2
  | .claimNext coordinator leaseToken now leaseSeconds =>
    (store.claimNext coordinator leaseToken now leaseSeconds).2
  | .start attemptId expectedRevision leaseToken now =>
    (store.start attemptId expectedRevision leaseToken now).2
  | .renew attemptId expectedRevision leaseToken now leaseSeconds usage =>
    (store.renew attemptId expectedRevision leaseToken now leaseSeconds usage).2
  | .complete attemptId expectedRevision leaseToken status result now =>
    (store.complete attemptId expectedRevision leaseToken status result now).2
  | .cancel taskId actor isAdmin now => (store.cancel taskId actor isAdmin now).2
  | .appendProgress progress => (store.appendProgress progress).2
  | .reconcileExpired now limit => (store.reconcileExpired now limit).2
  | .claimCompletion coordinator leaseToken now leaseSeconds =>
    (store.claimCompletion coordinator leaseToken now leaseSeconds).2
  | .finishCompletion attemptId leaseToken delivered now retryAt errorCode =>
    (store.finishCompletion attemptId leaseToken delivered now retryAt errorCode).2
  | .reconcileCompletionExpired now limit => (store.reconcileCompletionExpired now limit).2
  | .purgeRetained now limit => (store.purgeRetained now limit).2

/-- Any number of operations, one after the other. -/
def BackgroundTaskStore.run (store : BackgroundTaskStore) :
    List BackgroundTaskRequest → BackgroundTaskStore
  | [] => store
  | request :: rest => (request.apply store).run rest

end Fdai.Core
