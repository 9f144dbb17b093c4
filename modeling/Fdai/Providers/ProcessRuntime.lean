import Fdai.Workflow.Compiler
import Fdai.Providers.Digest

/-!
# The process store

The snapshot of one workflow process and its append-only journal, updated together.

* `ProcessSnapshot`, `ProcessEvent` — the two kinds of rows.
* `ProcessStore` — the rows of one process, with the operations of the store:
  `create`, `transition` (compare-and-set on the revision), `appendEvent`.
* `transition_cases` — everything a transition can do.

An event is recorded once: a write whose idempotency key is already in the journal
changes nothing, and a transition then answers with the *current* snapshot.
-/

namespace Fdai.Providers

open Fdai.Core (StepId Params Mode)

/-- A point in time, counted from a fixed origin. -/
abbrev Instant := ℕ

/-- Where a process stands. -/
inductive ProcessStatus where
  | pending | running | waiting | compensating | compensated | succeeded | failed
  | cancelled | timedOut
  deriving DecidableEq

def ProcessStatus.terminal : ProcessStatus → Bool
  | .compensated | .succeeded | .failed | .cancelled | .timedOut => true
  | _ => false

inductive ProcessEventKind where
  | processCreated | processStarted | stepStarted | actionDispatchClaimed | actionDispatched
  | stepWaiting | evidenceAttached | approvalRequested | approvalRecorded | decisionRecorded
  | parallelBranchStarted | parallelBranchCompleted | parallelBranchFailed
  | stepCompleted | stepFailed
  | compensationStarted | compensationDispatched | compensationCompleted
  | recoveryCompleted | processCompleted | processFailed
  | processCancellationRequested | processCancelled | processRetryRequested
  | processTimedOut
  deriving DecidableEq

/-- The last part of a step event's identifier. -/
inductive StepSuffix where
  | started | waiting | timedOut | failed | completed
  | claim (generation : ℕ)
  | dispatched
  | branch (label : String) (suffix : String)
  deriving DecidableEq

/-- Event identifiers of one process. The source hashes a text that spells these out. -/
inductive EventId where
  | created
  | attemptStarted (attempt : ℕ)
  | attemptTerminal (attempt : ℕ)
  | step (step : StepId) (attempt : ℕ) (suffix : StepSuffix)
  | compensationStarted (step : StepId)
  | compensationDispatched (step : StepId)
  | compensationCompleted
  | compensationFailed (revision : ℕ)
  | cancellationRequested
  | cancelled
  | retryRequested (attempt : ℕ)
  | recoveryCompleted (completion : Digest)
  deriving DecidableEq

/-- Idempotency keys. All but the key of a retry spell out the event's identifier. -/
inductive IdempotencyKey where
  | event (id : EventId)
  | retry (terminal : EventId) (attempt : ℕ)
  deriving DecidableEq

/-- Key and value pairs a run is given. -/
abbrev Context := List (String × String)

/-- `context.get(key)`. -/
def Context.get (context : Context) (key : String) : Option String :=
  (context.find? (·.1 = key)).map (·.2)

/-- What the creation event keeps for a resume. -/
structure ResumePayload where
  mode : Mode
  context : Context
  contextComplete : Bool

structure RecoveryPayload where
  completionDigest : Digest
  recoveryAttemptDigest : Digest
  effectClaimDigest : Digest
  effectClaimGeneration : ℕ
  releaseReceiptDigest : Digest
  terminalEventDigest : Digest
  auditPayloadDigest : Digest

/-- The entries of an event's payload that are read again. -/
structure EventPayload where
  reason : Option String := none
  proposalRef : Option String := none
  actionType : Option String := none
  params : Option Params := none
  generation : Option ℕ := none
  leaseExpiresAt : Option Instant := none
  safeguardBundleDigest : Option String := none
  compensatesStepId : Option StepId := none
  receiptRefs : List String := []
  recovery : Option RecoveryPayload := none
  resume : Option ResumePayload := none

/-- One row of the journal. -/
structure ProcessEvent where
  eventId : EventId
  kind : ProcessEventKind
  idempotencyKey : IdempotencyKey
  recordedAt : Instant
  causationId : Option EventId := none
  stepId : Option StepId := none
  attempt : ℕ := 1
  payload : EventPayload := {}

structure ProcessSnapshot where
  status : ProcessStatus
  currentStep : StepId
  updatedAt : Instant
  revision : ℕ := 0

/-- Failures of a store operation. -/
inductive ProcessRuntimeError where
  | unknownProcess
  | revisionConflict

/-- The rows of one process. -/
structure ProcessStore where
  snapshot : Option ProcessSnapshot := none
  journal : List ProcessEvent := []
  /-- A process that was not created has no journal. -/
  uncreated : snapshot = none → journal = [] := by simp
  /-- An event is recorded once. -/
  keys : (journal.map ProcessEvent.idempotencyKey).Nodup := by simp

namespace ProcessStore

variable (s : ProcessStore)

/-- The journal has an event with this key. -/
def recorded (key : IdempotencyKey) : Bool :=
  s.journal.any (·.idempotencyKey = key)

theorem recorded_iff {s : ProcessStore} {key : IdempotencyKey} :
    s.recorded key ↔ ∃ e ∈ s.journal, e.idempotencyKey = key := by
  simp [recorded]

def commit (snapshot : ProcessSnapshot) (event : ProcessEvent)
    (fresh : ¬ s.recorded event.idempotencyKey) : ProcessStore :=
  { snapshot := some snapshot
    journal := s.journal ++ [event]
    keys := by
      rw [List.map_append, List.nodup_append]
      refine ⟨s.keys, List.nodup_singleton _, ?_⟩
      intro key mem key' mem' same
      obtain ⟨e, inJournal, rfl⟩ := List.mem_map.1 mem
      obtain rfl : key' = event.idempotencyKey := by simpa using mem'
      exact fresh (recorded_iff.2 ⟨e, inJournal, same⟩) }

/-- Create a process once; a re-delivery answers with the existing snapshot. -/
def create (snapshot : ProcessSnapshot) (event : ProcessEvent) :
    (ProcessSnapshot × Bool) × ProcessStore :=
  match s.snapshot with
  | some existing => ((existing, false), s)
  | none =>
    let stored := { snapshot with revision := 1 }
    ((stored, true), { snapshot := some stored, journal := [event] })

/-- The snapshot a committed transition leaves. -/
def advanced (existing : ProcessSnapshot) (status : ProcessStatus) (currentStep : StepId)
    (event : ProcessEvent) : ProcessSnapshot :=
  { status, currentStep, updatedAt := event.recordedAt, revision := existing.revision + 1 }

/-- Append an event and advance the snapshot. A recorded key comes first: it answers with
the current snapshot, whatever revision was expected. -/
def transition (expectedRevision : ℕ) (status : ProcessStatus) (currentStep : StepId)
    (event : ProcessEvent) : Except ProcessRuntimeError ProcessSnapshot × ProcessStore :=
  match s.snapshot with
  | none => (.error .unknownProcess, s)
  | some existing =>
    if duplicate : s.recorded event.idempotencyKey then (.ok existing, s)
    else if existing.revision ≠ expectedRevision then (.error .revisionConflict, s)
    else
      let stored := advanced existing status currentStep event
      (.ok stored, s.commit stored event duplicate)

/-- Append a child event. `false` where its key was already recorded. -/
def appendEvent (event : ProcessEvent) : Except ProcessRuntimeError Bool × ProcessStore :=
  match s.snapshot with
  | none => (.error .unknownProcess, s)
  | some existing =>
    if duplicate : s.recorded event.idempotencyKey then (.ok false, s)
    else (.ok true, s.commit existing event duplicate)

variable {s}

theorem eq_of_key {e e' : ProcessEvent} (mem : e ∈ s.journal) (mem' : e' ∈ s.journal)
    (same : e.idempotencyKey = e'.idempotencyKey) : e = e' :=
  List.inj_on_of_nodup_map s.keys mem mem' same

/-- A kind of events that share a key is recorded at most once. -/
theorem filter_length_le_one {p : ProcessEvent → Bool} {key : IdempotencyKey}
    (shared : ∀ e ∈ s.journal, p e → e.idempotencyKey = key) :
    (s.journal.filter p).length ≤ 1 := by
  have keys : ((s.journal.filter p).map ProcessEvent.idempotencyKey).Nodup :=
    s.keys.sublist (List.filter_sublist.map _)
  have replicated : (s.journal.filter p).map ProcessEvent.idempotencyKey =
      List.replicate (s.journal.filter p).length key := by
    refine List.eq_replicate_iff.2 ⟨List.length_map _, fun key' mem => ?_⟩
    obtain ⟨e, isOne, rfl⟩ := List.mem_map.1 mem
    obtain ⟨inJournal, holds⟩ := List.mem_filter.1 isOne
    exact shared e inJournal holds
  exact List.nodup_replicate.1 (replicated ▸ keys)

/-- **What a transition can do.** Only the last case writes: the key is new and the
revision is the expected one. -/
theorem transition_cases {rev : ℕ} {status : ProcessStatus} {step : StepId}
    {event : ProcessEvent} {answer : Except ProcessRuntimeError ProcessSnapshot}
    {s' : ProcessStore} (h : s.transition rev status step event = (answer, s')) :
    (s' = s ∧ ∃ err, answer = .error err) ∨ (s' = s ∧ s.recorded event.idempotencyKey ∧
        ∃ existing, s.snapshot = some existing ∧ answer = .ok existing) ∨
      (∃ fresh : ¬ s.recorded event.idempotencyKey, ∃ existing, s.snapshot = some existing ∧
        existing.revision = rev ∧ answer = .ok (advanced existing status step event) ∧
        s' = s.commit (advanced existing status step event) event fresh) := by
  unfold transition at h
  rcases current : s.snapshot with _ | existing
  · rw [current] at h
    obtain ⟨rfl, rfl⟩ := Prod.mk.inj h
    exact .inl ⟨rfl, _, rfl⟩
  simp only [current] at h
  split at h
  · rename_i duplicate
    obtain ⟨rfl, rfl⟩ := Prod.mk.inj h
    exact .inr (.inl ⟨rfl, duplicate, existing, rfl, rfl⟩)
  rename_i fresh
  split at h
  · obtain ⟨rfl, rfl⟩ := Prod.mk.inj h
    exact .inl ⟨rfl, _, rfl⟩
  rename_i expected
  obtain ⟨rfl, rfl⟩ := Prod.mk.inj h
  exact .inr (.inr ⟨fresh, existing, rfl, not_not.1 expected, rfl, rfl⟩)

theorem appendEvent_cases {event : ProcessEvent} {answer : Except ProcessRuntimeError Bool}
    {s' : ProcessStore} (h : s.appendEvent event = (answer, s')) :
    (s' = s ∧ answer ≠ .ok true) ∨
      (∃ fresh : ¬ s.recorded event.idempotencyKey, ∃ existing, s.snapshot = some existing ∧
        answer = .ok true ∧ s' = s.commit existing event fresh) := by
  unfold appendEvent at h
  rcases current : s.snapshot with _ | existing
  · rw [current] at h
    obtain ⟨rfl, rfl⟩ := Prod.mk.inj h
    exact .inl ⟨rfl, by simp⟩
  simp only [current] at h
  split at h
  · obtain ⟨rfl, rfl⟩ := Prod.mk.inj h
    exact .inl ⟨rfl, by simp⟩
  rename_i fresh
  obtain ⟨rfl, rfl⟩ := Prod.mk.inj h
  exact .inr ⟨fresh, existing, rfl, rfl, rfl⟩

end ProcessStore

end Fdai.Providers
