import Mathlib.Data.List.Sort
import Mathlib.Data.Prod.Lex
import Mathlib.Data.String.Basic
import Fdai.Providers.Contracts
import Fdai.Sequences.Keyed

/-!
# The run store of read investigations

A run of a read investigation is claimed under a lease, started, renewed and completed by the holder
of the lease; it can be cancelled, it expires with its lease, and it can be reclaimed after a failure.

* `RunRecord` — a run, with the checks of its constructor as a field.
* `RunStore` — the store in memory, a dictionary of runs by owner and idempotency key.
* `claim`, `reclaim`, `start`, … — the operations, and `Call`, one of these.
* `sweep` — the loop of `reconcile_expired`, which can raise once it has written.

Every reading of the clock is an instant: each operation refuses a time without a time zone before it
reads the store. Of a request and a result only what the store reads is kept.
-/

namespace Fdai.Core.ReadInvestigation

open Fdai.Providers (Digest)
open Fdai.Sequences (Keyed)

/-- What an operation raises. -/
inductive RunError where
  | value (message : String)
  /-- `ReadInvestigationRunConflictError`. -/
  | conflict (message : String)
  | lookup (message : String)
  | permission (message : String)

/-- `MAX_READ_INVESTIGATION_ATTEMPTS`. -/
def maxAttempts : ℕ := 3

/-- `ReadInvestigationRunState`. -/
inductive RunState where
  | claimed | running | cancelRequested | completed | cancelled | failed | expired
  deriving DecidableEq

def RunState.terminal : RunState → Bool
  | .completed | .cancelled | .failed | .expired => true
  | _ => false

/-- `ReadInvestigationRunMode`. -/
inductive RunMode where
  | direct | streamed

/-- `ReadInvestigationBudget`. -/
structure Budget where
  maxWallSeconds : ℕ
  maxCostMicrousd : ℕ
  maxToolCalls : ℕ
  maxResults : ℕ
  maxOutputBytes : ℕ

/-- `ResourceSelector`. -/
structure Selector where
  name : String
  scopeRef : String
  resourceType : Option String
  resourceGroup : Option String

/-- `ReadInvestigationRequest`. -/
structure Request where
  idempotencyKey : String
  intent : String
  selector : Selector
  lookbackSeconds : ℕ
  requestedEvidence : List String
  budget : Budget
  explicitDeep : Bool

/-- An optional text of a projection. -/
def optionalText : Option String → Digest
  | none => .none
  | some value => .ofFields [.text value]

/-- `read_investigation_request_digest`. -/
def Request.digest (request : Request) : Digest := .ofFields [ .text request.intent,
  .text request.selector.name, .text request.selector.scopeRef,
  optionalText request.selector.resourceType, optionalText request.selector.resourceGroup,
  .num request.lookbackSeconds, .ofTexts request.requestedEvidence,
  .num request.budget.maxWallSeconds, .num request.budget.maxCostMicrousd,
  .num request.budget.maxToolCalls, .num request.budget.maxResults,
  .num request.budget.maxOutputBytes, .text (toString request.explicitDeep)]

/-- `_request_digest`, of a digest that a caller gives. -/
def isRequestDigest : Digest → Bool
  | .text value => isFingerprint value
  | _ => true

/-- `read_investigation_run_id`: a part of a digest. -/
def runId (ownerPrincipalId idempotencyKey : String) : Digest :=
  .ofFields [.text ownerPrincipalId, .text idempotencyKey]

/-- `ReadInvestigationResult`. -/
structure Result where
  request : Request

/-- `ReadInvestigationRunUsage`. -/
structure Usage where
  toolCalls : ℕ
  executionDurationMs : ℕ
  reservedCostMicrousd : ℕ := 0
  measuredCostMicrousd : Option ℕ := none

/-- `ReadInvestigationRunLease`. -/
structure Lease where
  owner : String
  token : String
  expiresAt : ℤ

/-! ## Records -/

/-- The fields of a `ReadInvestigationRunRecord`. -/
structure RunFields where
  taskId : Digest
  ownerPrincipalId : String
  idempotencyKey : String
  requestDigest : Digest
  request : Request
  mode : RunMode
  state : RunState
  revision : ℕ
  createdAt : ℤ
  updatedAt : ℤ
  retentionUntil : ℤ
  attemptCount : ℕ := 1
  terminalAt : Option ℤ := none
  lease : Option Lease := none
  result : Option Result := none
  usage : Option Usage := none
  failureReason : Option String := none

namespace RunFields

/-- What a run that is not terminal carries. -/
def activeChecks (run : RunFields) : List (Bool × RunError) := [
  (run.lease.isSome, .value "claimed/running run MUST carry a lease"),
  (run.terminalAt.isNone, .value "claimed/running run cannot carry terminal_at"),
  (run.result.isNone && run.usage.isNone && run.failureReason.isNone,
    .value "claimed/running run cannot carry terminal fields")]

/-- What a terminal run carries. -/
def terminalChecks (run : RunFields) : List (Bool × RunError) := [
  (run.lease.isNone, .value "terminal run cannot carry a lease"),
  (run.terminalAt.isSome, .value "terminal run MUST carry terminal_at"),
  (run.terminalAt = some run.updatedAt, .value "terminal run terminal_at MUST match updated_at"),
  (run.usage.isSome, .value "terminal run MUST carry usage")]

/-- What a completed run carries. -/
def completedChecks (run : RunFields) : List (Bool × RunError) := [
  (run.result.isSome, .value "completed run MUST carry a replay result"),
  (run.result.all fun result => result.request.digest = run.requestDigest,
    .value "completed run result MUST reference the same canonical request"),
  (run.failureReason.isNone, .value "completed run cannot carry failure_reason")]

/-- What a run that failed carries. -/
def failureChecks (run : RunFields) : List (Bool × RunError) := [
  (run.result.isNone, .value "cancelled/failed/expired runs cannot carry a replay result"),
  (run.failureReason.isSome, .value "failed/expired runs MUST carry failure_reason"),
  (run.failureReason.all isIdentifier, .value "failure_reason MUST be a bounded identifier")]

/-- `__post_init__`. -/
def check (run : RunFields) : Except RunError Unit := validate <| [
    (isIdentifier run.ownerPrincipalId, .value "owner_principal_id MUST be a bounded identifier"),
    (isIdentifier run.idempotencyKey, .value "idempotency_key MUST be a bounded identifier"),
    (isRequestDigest run.requestDigest, .value "request_digest MUST be a lowercase SHA-256 digest"),
    (run.requestDigest = run.request.digest,
      .value "request_digest MUST match the canonical request projection"),
    (run.taskId = runId run.ownerPrincipalId run.idempotencyKey,
      .value "task_id MUST match the owner-scoped run identity"),
    (1 ≤ run.revision, .value "revision MUST be >= 1"),
    (1 ≤ run.attemptCount ∧ run.attemptCount ≤ maxAttempts,
      .value "attempt_count is outside the bounded retry range"),
    (run.attemptCount ≤ run.revision, .value "attempt_count cannot exceed revision"),
    (run.createdAt ≤ run.updatedAt ∧ run.updatedAt ≤ run.retentionUntil,
      .value "run timestamps MUST be ordered")] ++
  if run.state.terminal then
    run.terminalChecks ++
      if run.state = .completed then run.completedChecks else run.failureChecks
  else run.activeChecks

end RunFields

/-- **A run.** -/
abbrev RunRecord := Valid RunFields.check

def RunRecord.key (run : RunRecord) : String × String :=
  (run.val.ownerPrincipalId, run.val.idempotencyKey)

/-- `InMemoryReadInvestigationRunStore`. -/
abbrev RunStore := Keyed RunRecord.key

/-- The next revision of a run that becomes terminal. -/
def RunFields.ended (run : RunFields) (state : RunState) (now : ℤ) (usage : Usage)
    (result : Option Result) (failureReason : Option String) : RunFields :=
  { run with
    state := state
    revision := run.revision + 1
    updatedAt := now
    terminalAt := some now
    lease := none
    result := result
    usage := some usage
    failureReason := failureReason }

/-- Whether a run is not terminal and its lease has expired. -/
def RunRecord.isExpired (run : RunRecord) (now : ℤ) : Bool :=
  !run.val.state.terminal && run.val.lease.any fun lease => lease.expiresAt ≤ now

/-- What a run becomes when its lease has expired. -/
def RunFields.recovered (run : RunFields) (now : ℤ) : RunFields :=
  run.ended (if run.state = .cancelRequested then .cancelled else .expired) now
    ⟨0, 0, run.request.budget.maxCostMicrousd, none⟩ none
    (some (if run.state = .cancelRequested then "cancelled_after_process_loss"
      else "lease_expired"))

/-- What an operation returns. -/
inductive Answer where
  | claimed (run : RunRecord) (isNew : Bool)
  | run (run : RunRecord)
  | reconciled (runs : List RunRecord)
  | purged (keys : List (String × String))

/-! ## Operations -/

/-- A number of seconds, in microseconds. -/
def seconds (count : ℤ) : ℤ := count * 1000000

/-- What the holder of a lease says of its run. -/
structure Holding where
  ownerPrincipalId : String
  idempotencyKey : String
  expectedRevision : ℤ
  leaseToken : String
  now : ℤ

structure ClaimTerms where
  mode : RunMode
  leaseOwner : String
  leaseToken : String
  now : ℤ
  leaseSeconds : ℤ
  retentionSeconds : ℤ

/-- The checks of `claim` and `reclaim` on their arguments. -/
def ClaimTerms.check (terms : ClaimTerms) : List (Bool × RunError) := [
  (isIdentifier terms.leaseOwner, .value "lease owner MUST be a bounded identifier"),
  (isIdentifier terms.leaseToken, .value "lease token MUST be a bounded identifier"),
  (1 ≤ terms.leaseSeconds, .value "lease_seconds MUST be >= 1"),
  (1 ≤ terms.retentionSeconds, .value "retention_seconds MUST be >= 1")]

def ClaimTerms.lease (terms : ClaimTerms) : Lease :=
  ⟨terms.leaseOwner, terms.leaseToken, terms.now + seconds terms.leaseSeconds⟩

namespace RunStore

/-- Build a run and store it. -/
def write (store : RunStore) (fields : RunFields) : Except RunError (RunStore × RunRecord) := do
  let run ← construct RunFields.check fields
  return (store.put run, run)

def claim (store : RunStore) (ownerPrincipalId : String) (request : Request)
    (terms : ClaimTerms) : Except RunError (RunStore × RunRecord × Bool) := do
  validate <| [
    (isIdentifier ownerPrincipalId, .value "owner_principal_id MUST be a bounded identifier"),
    (isIdentifier request.idempotencyKey,
      .value "idempotency_key MUST be a bounded identifier")] ++ terms.check
  match store.get (ownerPrincipalId, request.idempotencyKey) with
  | some current =>
    if current.val.requestDigest ≠ request.digest then
      throw (.conflict "read investigation idempotency key was reused with another request")
    else return (store, current, false)
  | none => do
    let (store, run) ← store.write
      { taskId := runId ownerPrincipalId request.idempotencyKey
        ownerPrincipalId := ownerPrincipalId
        idempotencyKey := request.idempotencyKey
        requestDigest := request.digest
        request := request
        mode := terms.mode
        state := .claimed
        revision := 1
        createdAt := terms.now
        updatedAt := terms.now
        retentionUntil := terms.now + seconds terms.retentionSeconds
        lease := some terms.lease }
    return (store, run, true)

def reclaim (store : RunStore) (ownerPrincipalId idempotencyKey : String)
    (requestDigest : Digest) (expectedRevision : ℤ) (terms : ClaimTerms) :
    Except RunError (RunStore × RunRecord) := do
  validate <| [
    (isIdentifier ownerPrincipalId, .value "owner_principal_id MUST be a bounded identifier"),
    (isIdentifier idempotencyKey, .value "idempotency_key MUST be a bounded identifier"),
    (isRequestDigest requestDigest,
      .value "request_digest MUST be a lowercase SHA-256 digest")] ++ terms.check
  match store.get (ownerPrincipalId, idempotencyKey) with
  | none => throw (.lookup "read investigation run was not found")
  | some current => do
    validate [ (current.val.requestDigest = requestDigest,
        .conflict "read investigation idempotency key was reused with another request"),
      ((current.val.revision : ℤ) = expectedRevision,
        .conflict "read investigation revision mismatch"),
      (current.val.state = .failed ∨ current.val.state = .expired,
        .conflict "read investigation run is not reclaimable"),
      (current.val.attemptCount < maxAttempts, .conflict "read investigation retries exhausted")]
    store.write { current.val with
      mode := terms.mode
      state := .claimed
      revision := current.val.revision + 1
      updatedAt := terms.now
      retentionUntil :=
        max current.val.retentionUntil (terms.now + seconds terms.retentionSeconds)
      attemptCount := current.val.attemptCount + 1
      terminalAt := none
      lease := some terms.lease
      result := none
      usage := none
      failureReason := none }

/-- `_leased`: the run, and its lease. -/
def leased (store : RunStore) (holding : Holding) (states : List RunState) :
    Except RunError (RunRecord × Lease) :=
  match store.get (holding.ownerPrincipalId, holding.idempotencyKey) with
  | none => throw (.lookup "read investigation run was not found")
  | some current => do
    validate [ (!current.val.state.terminal,
        .conflict "terminal read investigation run is immutable"),
      ((current.val.revision : ℤ) = holding.expectedRevision,
        .conflict "read investigation revision mismatch"),
      (current.val.state ∈ states, .conflict "read investigation state transition mismatch")]
    match current.val.lease with
    | none => throw (.conflict "read investigation lease mismatch")
    | some lease => do
      validate [ (lease.token = holding.leaseToken, .conflict "read investigation lease mismatch"),
        (holding.now < lease.expiresAt, .conflict "read investigation lease expired")]
      return (current, lease)

def start (store : RunStore) (holding : Holding) : Except RunError (RunStore × RunRecord) := do
  let (current, _) ← store.leased holding [.claimed]
  store.write { current.val with
    state := .running
    revision := current.val.revision + 1
    updatedAt := holding.now }

def complete (store : RunStore) (holding : Holding) (result : Result) (usage : Usage) :
    Except RunError (RunStore × RunRecord) := do
  let (current, _) ← store.leased holding [.claimed, .running]
  validate [(result.request.digest = current.val.requestDigest,
    .conflict "completed result request does not match the claimed run")]
  store.write (current.val.ended .completed holding.now usage (some result) none)

def renew (store : RunStore) (holding : Holding) (leaseSeconds leaseCeilingAt : ℤ) :
    Except RunError (RunStore × RunRecord) := do
  validate [ (1 ≤ leaseSeconds, .value "lease_seconds MUST be >= 1"),
    (holding.now ≤ leaseCeilingAt, .value "lease_ceiling_at MUST be >= now")]
  let (current, lease) ← store.leased holding [.running]
  validate [(holding.now < min (holding.now + seconds leaseSeconds) leaseCeilingAt,
    .conflict "read investigation lease ceiling exhausted")]
  store.write { current.val with
    revision := current.val.revision + 1
    updatedAt := holding.now
    lease := some { lease with
      expiresAt := min (holding.now + seconds leaseSeconds) leaseCeilingAt } }

/-- `finish_cancel`. A run that is not terminal carries no result. -/
def finishCancel (store : RunStore) (holding : Holding) (usage : Usage) :
    Except RunError (RunStore × RunRecord) := do
  let (current, _) ← store.leased holding [.cancelRequested]
  store.write (current.val.ended .cancelled holding.now usage current.val.result
    (some "cancelled_by_owner"))

def fail (store : RunStore) (holding : Holding) (failureReason : String) (usage : Usage)
    (state : RunState) : Except RunError (RunStore × RunRecord) := do
  validate [(state = .failed ∨ state = .expired,
    .value "run failure state MUST be failed or expired")]
  let (current, _) ← store.leased holding [.claimed, .running]
  store.write (current.val.ended state holding.now usage none (some failureReason))

def requestCancel (store : RunStore) (taskId : Digest) (actor : String) (isAdmin : Bool)
    (now : ℤ) : Except RunError (RunStore × RunRecord) := do
  validate [(isIdentifier actor, .value "cancel actor MUST be a bounded identifier")]
  match store.values.find? fun run => run.val.taskId = taskId with
  | none => throw (.lookup "read investigation run was not found")
  | some current => do
    validate [(actor = current.val.ownerPrincipalId ∨ isAdmin = true,
      .permission "read investigation cancellation is not authorized")]
    if current.val.state = .cancelRequested ∨ current.val.state.terminal = true then
      return (store, current)
    else do
      validate [(current.val.lease.any fun lease => now < lease.expiresAt,
        .conflict "read investigation lease expired")]
      store.write { current.val with
        state := .cancelRequested
        revision := current.val.revision + 1
        updatedAt := now }

/-- The loop of `reconcile_expired`, over the runs still to visit and those reconciled. -/
def sweep (now : ℤ) (limit : ℕ) : List RunRecord → RunStore → List RunRecord →
    RunStore × Except RunError (List RunRecord)
  | [], store, reconciled => (store, .ok reconciled)
  | current :: rest, store, reconciled =>
    if limit ≤ reconciled.length then (store, .ok reconciled)
    else if current.isExpired now then
      match construct RunFields.check (current.val.recovered now) with
      | .error error => (store, .error error)
      | .ok updated => sweep now limit rest (store.put updated) (reconciled ++ [updated])
    else sweep now limit rest store reconciled

/-- The runs in the order of a sweep. -/
def sorted (store : RunStore) (stamp : RunRecord → ℤ) : List RunRecord :=
  store.values.insertionSort fun run other =>
    toLex (stamp run, toLex run.key) ≤ toLex (stamp other, toLex other.key)

def reconcileExpired (store : RunStore) (now limit : ℤ) :
    RunStore × Except RunError (List RunRecord) :=
  if 1 ≤ limit ∧ limit ≤ 10000 then
    sweep now limit.toNat (store.sorted (·.val.updatedAt)) store []
  else (store, .error (.value "reconcile limit MUST be in [1, 10000]"))

/-- The loop of `purge_retained`. -/
def purge (now : ℤ) (limit : ℕ) : List RunRecord → RunStore → List (String × String) →
    RunStore × List (String × String)
  | [], store, purged => (store, purged)
  | current :: rest, store, purged =>
    if limit ≤ purged.length then (store, purged)
    else if current.val.state.terminal && current.val.retentionUntil ≤ now then
      purge now limit rest (store.erase current.key) (purged ++ [current.key])
    else purge now limit rest store purged

def purgeRetained (store : RunStore) (now limit : ℤ) :
    RunStore × Except RunError (List (String × String)) :=
  if 1 ≤ limit ∧ limit ≤ 10000 then
    let (store, purged) := purge now limit.toNat (store.sorted (·.val.retentionUntil)) store []
    (store, .ok purged)
  else (store, .error (.value "purge limit MUST be in [1, 10000]"))

end RunStore

/-- A call of the store. -/
inductive Call where
  | claim (ownerPrincipalId : String) (request : Request) (terms : ClaimTerms)
  | reclaim (ownerPrincipalId idempotencyKey : String) (requestDigest : Digest)
      (expectedRevision : ℤ) (terms : ClaimTerms)
  | start (holding : Holding)
  | complete (holding : Holding) (result : Result) (usage : Usage)
  | renew (holding : Holding) (leaseSeconds leaseCeilingAt : ℤ)
  | requestCancel (taskId : Digest) (actor : String) (isAdmin : Bool) (now : ℤ)
  | finishCancel (holding : Holding) (usage : Usage)
  | fail (holding : Holding) (failureReason : String) (usage : Usage) (state : RunState)
  | reconcileExpired (now limit : ℤ)
  | purgeRetained (now limit : ℤ)

/-- The reading of the clock of a call. -/
def Call.now : Call → ℤ
  | .claim _ _ terms => terms.now
  | .reclaim _ _ _ _ terms => terms.now
  | .start holding => holding.now
  | .complete holding _ _ => holding.now
  | .renew holding _ _ => holding.now
  | .requestCancel _ _ _ now => now
  | .finishCancel holding _ => holding.now
  | .fail holding _ _ _ => holding.now
  | .reconcileExpired now _ => now
  | .purgeRetained now _ => now

namespace RunStore

/-- An operation that writes all or nothing. -/
def settle {α : Type} (store : RunStore) (outcome : Except RunError (RunStore × α))
    (answer : α → Answer) : RunStore × Except RunError Answer :=
  match outcome with
  | .ok (after, result) => (after, .ok (answer result))
  | .error error => (store, .error error)

/-- **One call.** -/
def step (store : RunStore) : Call → RunStore × Except RunError Answer
  | .claim owner request terms =>
    store.settle (store.claim owner request terms) fun (run, isNew) => .claimed run isNew
  | .reclaim owner key digest revision terms =>
    store.settle (store.reclaim owner key digest revision terms) .run
  | .start holding => store.settle (store.start holding) .run
  | .complete holding result usage => store.settle (store.complete holding result usage) .run
  | .renew holding leaseSeconds ceiling =>
    store.settle (store.renew holding leaseSeconds ceiling) .run
  | .requestCancel taskId actor isAdmin now =>
    store.settle (store.requestCancel taskId actor isAdmin now) .run
  | .finishCancel holding usage => store.settle (store.finishCancel holding usage) .run
  | .fail holding reason usage state =>
    store.settle (store.fail holding reason usage state) .run
  | .reconcileExpired now limit =>
    ((store.reconcileExpired now limit).1, (store.reconcileExpired now limit).2.map .reconciled)
  | .purgeRetained now limit =>
    ((store.purgeRetained now limit).1, (store.purgeRetained now limit).2.map .purged)

def storeAfter (calls : List Call) : RunStore :=
  calls.foldl (fun store call => (store.step call).1) Keyed.empty

end RunStore

end Fdai.Core.ReadInvestigation
