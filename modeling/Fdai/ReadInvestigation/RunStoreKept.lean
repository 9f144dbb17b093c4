import Fdai.ReadInvestigation.RunStore

/-!
# Runs move one revision at a time

Each operation rebuilds one run from the run that is stored, so what it does is a *move* of this run:
its next revision, by a caller who may make it. A sweep makes one move for each run whose lease has
expired, and raises at the first one whose retention is over, since a run is never updated after that.

* `Moves` — the moves, and who makes them.
* `StoreStep` — what one call does to every run; `step_moves` proves it for every call.
* `sweep_recovers` — when a sweep recovers all.
* `run_store_kept` — both, in every run of the store.
-/

namespace Fdai.Core.ReadInvestigation

open Fdai.Providers (Digest)
open Fdai.Sequences (Keyed)

variable {store after : RunStore} {run run' : RunRecord} {call : Call} {now : ℤ}

/-- The holding that a call shows, if it moves a run under its lease. -/
def Call.holding : Call → Option Holding
  | .start holding => some holding
  | .complete holding _ _ => some holding
  | .renew holding _ _ => some holding
  | .finishCancel holding _ => some holding
  | .fail holding _ _ _ => some holding
  | _ => none

/-- Whether a holding names the run at its revision, with the token of its unexpired lease. -/
structure Holds (holding : Holding) (run : RunRecord) : Prop where
  key : run.key = (holding.ownerPrincipalId, holding.idempotencyKey)
  revision : (run.val.revision : ℤ) = holding.expectedRevision
  lease : ∃ lease, run.val.lease = some lease ∧ lease.token = holding.leaseToken ∧
    holding.now < lease.expiresAt

/-- **Who moves a run.** -/
inductive MovedBy (run run' : RunRecord) : Call → Prop
  /-- A run that failed or expired is reclaimed, for another attempt. -/
  | reclaim (requestDigest : Digest) (terms : ClaimTerms)
      (state : run.val.state = .failed ∨ run.val.state = .expired)
      (attempts : run'.val.attemptCount = run.val.attemptCount + 1) :
      MovedBy run run' (.reclaim run.val.ownerPrincipalId run.val.idempotencyKey requestDigest
        run.val.revision terms)
  /-- The holder of the lease moves a run. -/
  | holder {call : Call} (holding : Holding) (isHolding : call.holding = some holding)
      (holds : Holds holding run) (isOpen : run.val.state.terminal = false)
      (attempts : run'.val.attemptCount = run.val.attemptCount) : MovedBy run run' call
  /-- The owner or an administrator asks for the cancellation of a run under its lease. -/
  | cancellation (actor : String) (isAdmin : Bool) (now : ℤ)
      (allowed : actor = run.val.ownerPrincipalId ∨ isAdmin = true)
      (isOpen : run.val.state.terminal = false)
      (lease : ∃ lease, run.val.lease = some lease ∧ now < lease.expiresAt)
      (state : run'.val.state = .cancelRequested) (sameLease : run'.val.lease = run.val.lease)
      (attempts : run'.val.attemptCount = run.val.attemptCount) :
      MovedBy run run' (.requestCancel run.val.taskId actor isAdmin now)
  /-- A sweep ends a run whose lease has expired. -/
  | sweep (now limit : ℤ) (expired : run.isExpired now = true)
      (ended : run'.val.state.terminal = true)
      (attempts : run'.val.attemptCount = run.val.attemptCount) :
      MovedBy run run' (.reconcileExpired now limit)

/-- **A move** of a run: its next revision. -/
structure Moves (call : Call) (run run' : RunRecord) : Prop where
  key : run'.key = run.key
  request : run'.val.request = run.val.request
  requestDigest : run'.val.requestDigest = run.val.requestDigest
  createdAt : run'.val.createdAt = run.val.createdAt
  revision : run'.val.revision = run.val.revision + 1
  updatedAt : run'.val.updatedAt = call.now
  movedBy : MovedBy run run' call

/-- **What a call does to every run.** -/
structure StoreStep (call : Call) (store after : RunStore) : Prop where
  /-- A run stays as it is, or moves. -/
  moved : ∀ key run run', store.get key = some run → after.get key = some run' →
    run' = run ∨ Moves call run run'
  /-- Only a purge removes a run, once it is terminal and its retention is over. -/
  removed : ∀ key run, store.get key = some run → after.get key = none →
    run.val.state.terminal = true ∧ run.val.retentionUntil ≤ call.now ∧
      ∃ limit, call = .purgeRetained call.now limit
  /-- Only a claim makes a run, at its first revision and attempt. -/
  created : ∀ key run', store.get key = none → after.get key = some run' →
    run'.val.revision = 1 ∧ run'.val.attemptCount = 1 ∧ run'.val.updatedAt = call.now ∧
      ∃ terms, call = .claim run'.val.ownerPrincipalId run'.val.request terms

theorem storeStep_same (call : Call) (store : RunStore) : StoreStep call store store where
  moved key run run' before after := by
    rw [before] at after
    exact .inl (Option.some.inj after).symm
  removed key run before after := by
    rw [before] at after
    cases after
  created key run' before after := by
    rw [before] at after
    cases after

/-- **One run moves.** -/
theorem storeStep_put (stored : store.get run.key = some run) (moves : Moves call run run') :
    StoreStep call store (store.put run') where
  moved key before after isBefore isAfter := by
    rw [Keyed.get_put, moves.key] at isAfter
    by_cases same : key = run.key
    · rw [if_pos same] at isAfter
      obtain rfl := Option.some.inj isAfter
      rw [same, stored] at isBefore
      obtain rfl := Option.some.inj isBefore
      exact .inr moves
    · rw [if_neg same, isBefore] at isAfter
      exact .inl (Option.some.inj isAfter).symm
  removed key before isBefore isAfter := by
    rw [Keyed.get_put] at isAfter
    split at isAfter
    · cases isAfter
    · rw [isBefore] at isAfter
      cases isAfter
  created key after isBefore isAfter := by
    rw [Keyed.get_put, moves.key] at isAfter
    by_cases same : key = run.key
    · rw [same, stored] at isBefore
      cases isBefore
    · rw [if_neg same, isBefore] at isAfter
      cases isAfter

/-! ## Operations -/

theorem write_eq_ok {fields : RunFields} : store.write fields = .ok (after, run) ↔
    run.val = fields ∧ after = store.put run := by
  unfold RunStore.write
  rw [bind_eq_ok]
  constructor
  · rintro ⟨built, isBuilt, same⟩
    obtain ⟨rfl, rfl⟩ := Prod.mk.inj (Except.ok.inj same)
    exact ⟨construct_eq_ok.1 isBuilt, rfl⟩
  · rintro ⟨isFields, rfl⟩
    exact ⟨run, construct_eq_ok.2 isFields, rfl⟩

theorem get_key {key : String × String} (found : store.get key = some run) :
    store.get run.key = some run := by
  rw [Keyed.key_of_get found]
  exact found

/-- **A run that a caller holds.** -/
theorem leased_eq_ok {holding : Holding} {states : List RunState} {lease : Lease}
    (isLeased : store.leased holding states = .ok (run, lease)) :
    store.get run.key = some run ∧ Holds holding run ∧ run.val.state.terminal = false ∧
      run.val.state ∈ states ∧ run.val.lease = some lease := by
  unfold RunStore.leased at isLeased
  split at isLeased
  · cases isLeased
  rename_i current found
  rw [check_bind_eq_ok] at isLeased
  obtain ⟨checks, isLeased⟩ := isLeased
  simp only [validate_cons_eq_ok, validate_nil, and_true, decide_eq_true_eq, Bool.not_eq_true']
    at checks
  obtain ⟨isOpen, revision, inStates⟩ := checks
  split at isLeased
  · cases isLeased
  rename_i held isHeld
  rw [check_bind_eq_ok] at isLeased
  obtain ⟨checks, same⟩ := isLeased
  obtain ⟨rfl, rfl⟩ := Prod.mk.inj (Except.ok.inj same)
  simp only [validate_cons_eq_ok, validate_nil, and_true, decide_eq_true_eq] at checks
  exact ⟨get_key found, ⟨Keyed.key_of_get found, revision, _, isHeld, checks⟩, isOpen, inStates,
    isHeld⟩

theorem storeStep_held {holding : Holding} {states : List RunState} {lease : Lease}
    {fields : RunFields} (isHolding : call.holding = some holding) (isNow : call.now = holding.now)
    (isLeased : store.leased holding states = .ok (run, lease))
    (isWrite : store.write fields = .ok (after, run'))
    (same : fields.ownerPrincipalId = run.val.ownerPrincipalId ∧
      fields.idempotencyKey = run.val.idempotencyKey ∧ fields.request = run.val.request ∧
      fields.requestDigest = run.val.requestDigest ∧ fields.createdAt = run.val.createdAt ∧
      fields.revision = run.val.revision + 1 ∧ fields.updatedAt = holding.now ∧
      fields.attemptCount = run.val.attemptCount) : StoreStep call store after := by
  obtain ⟨isFields, rfl⟩ := write_eq_ok.1 isWrite
  obtain ⟨stored, holds, isOpen, -, -⟩ := leased_eq_ok isLeased
  rw [← isFields] at same
  obtain ⟨owner, key, request, digest, created, revision, updated, attempts⟩ := same
  exact storeStep_put stored ⟨Prod.ext owner key, request, digest, created, revision,
    updated.trans isNow.symm, .holder holding isHolding holds isOpen attempts⟩

theorem claim_step {owner : String} {request : Request} {terms : ClaimTerms} {isNew : Bool}
    (isClaim : store.claim owner request terms = .ok (after, run, isNew)) :
    StoreStep (.claim owner request terms) store after := by
  unfold RunStore.claim at isClaim
  rw [check_bind_eq_ok] at isClaim
  replace isClaim := isClaim.2
  split at isClaim
  · split at isClaim
    · cases isClaim
    · obtain ⟨rfl, -⟩ := Prod.mk.inj (Except.ok.inj isClaim)
      exact storeStep_same _ _
  rename_i absent
  rw [bind_eq_ok] at isClaim
  obtain ⟨⟨written, built⟩, isWrite, same⟩ := isClaim
  obtain ⟨isFields, rfl⟩ := write_eq_ok.1 isWrite
  obtain ⟨rfl, rest⟩ := Prod.mk.inj (Except.ok.inj same)
  obtain ⟨rfl, -⟩ := Prod.mk.inj rest
  have isKey : RunRecord.key built = (owner, request.idempotencyKey) := by
    unfold RunRecord.key
    rw [isFields]
  refine ⟨?_, ?_, ?_⟩
  · intro key before later isBefore isAfter
    rw [Keyed.get_put, isKey] at isAfter
    by_cases isNew : key = (owner, request.idempotencyKey)
    · rw [isNew, absent] at isBefore
      cases isBefore
    · rw [if_neg isNew, isBefore] at isAfter
      exact .inl (Option.some.inj isAfter).symm
  · intro key before isBefore isAfter
    rw [Keyed.get_put] at isAfter
    split at isAfter
    · cases isAfter
    · rw [isBefore] at isAfter
      cases isAfter
  · intro key later isBefore isAfter
    rw [Keyed.get_put, isKey] at isAfter
    by_cases isNew : key = (owner, request.idempotencyKey)
    · rw [if_pos isNew] at isAfter
      obtain rfl := Option.some.inj isAfter
      rw [isFields]
      exact ⟨rfl, rfl, rfl, terms, rfl⟩
    · rw [if_neg isNew, isBefore] at isAfter
      cases isAfter

theorem reclaim_step {owner key : String} {digest : Digest} {revision : ℤ} {terms : ClaimTerms}
    (isReclaim : store.reclaim owner key digest revision terms = .ok (after, run')) :
    StoreStep (.reclaim owner key digest revision terms) store after := by
  unfold RunStore.reclaim at isReclaim
  rw [check_bind_eq_ok] at isReclaim
  replace isReclaim := isReclaim.2
  split at isReclaim
  · cases isReclaim
  rename_i current found
  rw [check_bind_eq_ok] at isReclaim
  obtain ⟨checks, isWrite⟩ := isReclaim
  simp only [validate_cons_eq_ok, validate_nil, and_true, decide_eq_true_eq] at checks
  obtain ⟨-, rfl, state, -⟩ := checks
  obtain ⟨isFields, rfl⟩ := write_eq_ok.1 isWrite
  have isKey : current.key = (owner, key) := Keyed.key_of_get found
  obtain ⟨rfl, rfl⟩ := Prod.mk.inj isKey
  refine storeStep_put (get_key found) ⟨?_, ?_, ?_, ?_, ?_, ?_, ?_⟩
  · unfold RunRecord.key
    rw [isFields]
  · rw [isFields]
  · rw [isFields]
  · rw [isFields]
  · rw [isFields]
  · rw [isFields]
    rfl
  · exact .reclaim digest terms state (by rw [isFields])

theorem requestCancel_step {taskId : Digest} {actor : String} {isAdmin : Bool}
    (isRequest : store.requestCancel taskId actor isAdmin now = .ok (after, run')) :
    StoreStep (.requestCancel taskId actor isAdmin now) store after := by
  unfold RunStore.requestCancel at isRequest
  rw [check_bind_eq_ok] at isRequest
  replace isRequest := isRequest.2
  split at isRequest
  · cases isRequest
  rename_i current found
  rw [check_bind_eq_ok] at isRequest
  obtain ⟨allowed, isRequest⟩ := isRequest
  split at isRequest
  · obtain ⟨rfl, -⟩ := Prod.mk.inj (Except.ok.inj isRequest)
    exact storeStep_same _ _
  rename_i isActive
  rw [check_bind_eq_ok] at isRequest
  obtain ⟨leased, isWrite⟩ := isRequest
  simp only [validate_cons_eq_ok, validate_nil, and_true, decide_eq_true_eq] at allowed leased
  obtain ⟨isFields, rfl⟩ := write_eq_ok.1 isWrite
  obtain rfl : current.val.taskId = taskId := by simpa using List.find?_some found
  have isOpen : current.val.state.terminal = false := by
    cases isTerminal : current.val.state.terminal with
    | true => exact absurd (.inr isTerminal) isActive
    | false => rfl
  have lease : ∃ lease, current.val.lease = some lease ∧ now < lease.expiresAt := by
    cases isLease : current.val.lease with
    | none =>
      rw [isLease] at leased
      cases leased
    | some lease =>
      rw [isLease] at leased
      exact ⟨lease, rfl, by simpa using leased⟩
  refine storeStep_put (Keyed.get_of_mem (List.mem_of_find?_eq_some found))
    ⟨?_, ?_, ?_, ?_, ?_, ?_, ?_⟩
  · unfold RunRecord.key
    rw [isFields]
  · rw [isFields]
  · rw [isFields]
  · rw [isFields]
  · rw [isFields]
  · rw [isFields]
    rfl
  · exact .cancellation actor isAdmin now allowed isOpen lease (by rw [isFields])
      (by rw [isFields]) (by rw [isFields])

/-! ## Sweeps -/

namespace RunFields

/-- The checks of a run that do not depend on its state. -/
structure Checked (run : RunFields) : Prop where
  owner : isIdentifier run.ownerPrincipalId = true
  key : isIdentifier run.idempotencyKey = true
  digest : isRequestDigest run.requestDigest = true
  request : run.requestDigest = run.request.digest
  taskId : run.taskId = runId run.ownerPrincipalId run.idempotencyKey
  revision : 1 ≤ run.revision
  attempts : 1 ≤ run.attemptCount ∧ run.attemptCount ≤ maxAttempts
  attemptsLe : run.attemptCount ≤ run.revision
  created : run.createdAt ≤ run.updatedAt
  retained : run.updatedAt ≤ run.retentionUntil

/-- **A run that its constructor accepts.** -/
theorem check_eq_ok {run : RunFields} : run.check = .ok () ↔ run.Checked ∧
    validate (if run.state.terminal then run.terminalChecks ++
      if run.state = .completed then run.completedChecks else run.failureChecks
      else run.activeChecks) = .ok () := by
  unfold check
  rw [validate_append_eq_ok]
  simp only [validate_cons_eq_ok, validate_nil, and_true, decide_eq_true_eq]
  constructor
  · rintro ⟨⟨owner, key, digest, request, taskId, revision, attempts, attemptsLe, created,
      retained⟩, rest⟩
    exact ⟨⟨owner, key, digest, request, taskId, revision, attempts, attemptsLe, created,
      retained⟩, rest⟩
  · rintro ⟨⟨owner, key, digest, request, taskId, revision, attempts, attemptsLe, created,
      retained⟩, rest⟩
    exact ⟨⟨owner, key, digest, request, taskId, revision, attempts, attemptsLe, created,
      retained⟩, rest⟩

end RunFields

/-- A run within its limits. -/
theorem RunRecord.checked (run : RunRecord) : run.val.Checked :=
  (RunFields.check_eq_ok.1 run.2).1

theorem recovered_terminal (run : RunFields) (now : ℤ) :
    (run.recovered now).state.terminal = true := by
  unfold RunFields.recovered RunFields.ended
  dsimp only
  split <;> rfl

/-- **A run can be recovered** exactly until its retention is over. -/
theorem recovered_check (run : RunRecord) (clock : run.val.updatedAt ≤ now) :
    (run.val.recovered now).check = .ok () ↔ now ≤ run.val.retentionUntil := by
  have checked := run.checked
  rw [RunFields.check_eq_ok]
  constructor
  · intro passed
    exact passed.1.retained
  · intro inTime
    refine ⟨⟨checked.owner, checked.key, checked.digest, checked.request, checked.taskId,
      Nat.le_succ_of_le checked.revision, checked.attempts,
      Nat.le_succ_of_le checked.attemptsLe, checked.created.trans clock, inTime⟩, ?_⟩
    have identifiers : isIdentifier "cancelled_after_process_loss" = true ∧
        isIdentifier "lease_expired" = true := by decide +kernel
    rw [if_pos (recovered_terminal run.val now), validate_append_eq_ok]
    by_cases cancelled : run.val.state = .cancelRequested
    · simp [RunFields.recovered, RunFields.ended, RunFields.terminalChecks,
        RunFields.failureChecks, cancelled, identifiers]
    · simp [RunFields.recovered, RunFields.ended, RunFields.terminalChecks,
        RunFields.failureChecks, cancelled, identifiers]

/-- The runs whose lease has expired. -/
def expiredIn (now : ℤ) (runs : List RunRecord) : List RunRecord :=
  runs.filter fun run => run.isExpired now

variable {runs : List RunRecord}

theorem mem_expiredIn : run ∈ expiredIn now runs ↔ run ∈ runs ∧ run.isExpired now = true := by
  simp [expiredIn]

theorem expiredIn_cons (run : RunRecord) : (expiredIn now (run :: runs)).length =
      (if run.isExpired now then 1 else 0) + (expiredIn now runs).length := by
  unfold expiredIn
  by_cases expired : run.isExpired now = true
  · simp [expired, Nat.add_comm]
  · simp [expired]

variable {limit : ℕ}

/-- What a sweep leaves under a key: the run as it is, or recovered. -/
theorem sweep_get (reconciled : List RunRecord)
    (stored : ∀ run ∈ runs, store.get run.key = some run)
    (differ : (runs.map RunRecord.key).Nodup) (key : String × String) :
    (RunStore.sweep now limit runs store reconciled).1.get key = store.get key ∨
      ∃ run run', run ∈ runs ∧ run.key = key ∧ run.isExpired now = true ∧
        run'.val = run.val.recovered now ∧
        (RunStore.sweep now limit runs store reconciled).1.get key = some run' := by
  induction runs generalizing store reconciled with
  | nil => exact .inl rfl
  | cons current rest ih =>
    rw [List.map_cons, List.nodup_cons] at differ
    have storedRest : ∀ run ∈ rest, store.get run.key = some run := fun run inside =>
      stored run (List.mem_cons_of_mem _ inside)
    unfold RunStore.sweep
    split
    · exact .inl rfl
    split
    · rename_i expired
      split
      · exact .inl rfl
      rename_i updated isUpdated
      have fields := construct_eq_ok.1 isUpdated
      have isKey : RunRecord.key updated = current.key := by
        unfold RunRecord.key
        rw [fields]
        rfl
      have stillStored : ∀ run ∈ rest, (store.put updated).get run.key = some run := by
        intro run inside
        rw [Keyed.get_put_ne, storedRest run inside]
        rw [isKey]
        intro same
        exact differ.1 (same ▸ List.mem_map_of_mem inside)
      rcases ih (reconciled ++ [updated]) stillStored differ.2 with
        kept | ⟨run, run', inside, isRun, isExpired, isRecovered, isAfter⟩
      · by_cases here : key = current.key
        · refine .inr ⟨current, updated, List.mem_cons_self, here.symm, expired, fields, ?_⟩
          rw [kept, here, ← isKey, Keyed.get_put_self]
        left
        rw [kept, Keyed.get_put_ne]
        rw [isKey]
        exact here
      · exact .inr ⟨run, run', List.mem_cons_of_mem _ inside, isRun, isExpired, isRecovered,
          isAfter⟩
    · rcases ih reconciled storedRest differ.2 with
        kept | ⟨run, run', inside, isRun, isExpired, isRecovered, isAfter⟩
      · exact .inl kept
      · exact .inr ⟨run, run', List.mem_cons_of_mem _ inside, isRun, isExpired, isRecovered,
          isAfter⟩

/-- **A sweep recovers every run**, if the retention of none is over. -/
theorem sweep_recovers (reconciled : List RunRecord)
    (stored : ∀ run ∈ runs, store.get run.key = some run)
    (differ : (runs.map RunRecord.key).Nodup)
    (clock : ∀ run ∈ runs, run.val.updatedAt ≤ now)
    (covers : reconciled.length + (expiredIn now runs).length ≤ limit)
    (retained : ∀ run ∈ runs, run.isExpired now = true → now ≤ run.val.retentionUntil) :
    (∃ runs', (RunStore.sweep now limit runs store reconciled).2 = .ok runs') ∧
      ∀ run ∈ runs, run.isExpired now = true → ∃ run',
        (RunStore.sweep now limit runs store reconciled).1.get run.key = some run' ∧
          run'.val.state.terminal = true := by
  induction runs generalizing store reconciled with
  | nil => exact ⟨⟨reconciled, rfl⟩, by simp⟩
  | cons current rest ih =>
    rw [List.map_cons, List.nodup_cons] at differ
    have storedRest : ∀ run ∈ rest, store.get run.key = some run := fun run inside =>
      stored run (List.mem_cons_of_mem _ inside)
    have clockRest : ∀ run ∈ rest, run.val.updatedAt ≤ now := fun run inside =>
      clock run (List.mem_cons_of_mem _ inside)
    have retainedRest : ∀ run ∈ rest, run.isExpired now = true → now ≤ run.val.retentionUntil :=
      fun run inside => retained run (List.mem_cons_of_mem _ inside)
    unfold RunStore.sweep
    by_cases expired : current.isExpired now = true
    · rw [expiredIn_cons, if_pos expired] at covers
      have room : ¬ limit ≤ reconciled.length := by omega
      have passes := (recovered_check current (clock current List.mem_cons_self)).2
        (retained current List.mem_cons_self expired)
      have isUpdated : construct RunFields.check (current.val.recovered now) =
          .ok ⟨current.val.recovered now, passes⟩ := construct_eq_ok.2 rfl
      rw [if_neg room, if_pos expired, isUpdated]
      dsimp only
      generalize isNew : (⟨current.val.recovered now, passes⟩ : RunRecord) = updated
      have isKey : RunRecord.key updated = current.key := by
        rw [← isNew]
        rfl
      have stillStored : ∀ run ∈ rest, (store.put updated).get run.key = some run := by
        intro run inside
        rw [Keyed.get_put_ne, storedRest run inside]
        rw [isKey]
        intro same
        exact differ.1 (same ▸ List.mem_map_of_mem inside)
      obtain ⟨answered, recovers⟩ := ih (reconciled ++ [updated]) stillStored differ.2 clockRest
        (by rw [List.length_append, List.length_singleton]; omega) retainedRest
      refine ⟨answered, ?_⟩
      intro run inside isExpired
      rcases List.mem_cons.1 inside with rfl | inRest
      · -- No later run has the key of this one.
        rcases sweep_get (reconciled ++ [updated]) stillStored differ.2 run.key with
          kept | ⟨other, -, isOther, sameKey, -⟩
        · refine ⟨updated, ?_, ?_⟩
          · rw [kept, ← isKey, Keyed.get_put_self]
          · rw [← isNew]
            exact recovered_terminal run.val now
        · exact absurd (sameKey ▸ List.mem_map_of_mem isOther) differ.1
      · exact recovers run inRest isExpired
    · rw [expiredIn_cons, if_neg expired, Nat.zero_add] at covers
      by_cases room : limit ≤ reconciled.length
      · have none_left : expiredIn now rest = [] := List.length_eq_zero_iff.1 (by omega)
        rw [if_pos room]
        refine ⟨⟨reconciled, rfl⟩, ?_⟩
        intro run inside isExpired
        rcases List.mem_cons.1 inside with rfl | inRest
        · exact absurd isExpired expired
        have isLeft := mem_expiredIn.2 ⟨inRest, isExpired⟩
        rw [none_left] at isLeft
        cases isLeft
      · rw [if_neg room, if_neg expired]
        obtain ⟨answered, recovers⟩ := ih reconciled storedRest differ.2 clockRest covers retainedRest
        refine ⟨answered, ?_⟩
        intro run inside isExpired
        rcases List.mem_cons.1 inside with rfl | inRest
        · exact absurd isExpired expired
        · exact recovers run inRest isExpired

/-- **A sweep raises**, if it reaches a run whose retention is over. -/
theorem sweep_raises {reconciled : List RunRecord} (clock : ∀ run ∈ runs, run.val.updatedAt ≤ now)
    (covers : reconciled.length + (expiredIn now runs).length ≤ limit)
    (reached : run ∈ runs) (expired : run.isExpired now = true)
    (late : run.val.retentionUntil < now) :
    ∃ error, (RunStore.sweep now limit runs store reconciled).2 = .error error := by
  induction runs generalizing store reconciled with
  | nil => cases reached
  | cons current rest ih =>
    have clockRest : ∀ run ∈ rest, run.val.updatedAt ≤ now := fun run inside =>
      clock run (List.mem_cons_of_mem _ inside)
    have some_left : 0 < (expiredIn now (current :: rest)).length :=
      List.length_pos_of_mem (mem_expiredIn.2 ⟨reached, expired⟩)
    have room : ¬ limit ≤ reconciled.length := by omega
    unfold RunStore.sweep
    rw [if_neg room]
    by_cases isExpired : current.isExpired now = true
    · rw [if_pos isExpired]
      rw [expiredIn_cons, if_pos isExpired] at covers
      split
      · exact ⟨_, rfl⟩
      rename_i updated isUpdated
      have passes : (current.val.recovered now).check = .ok () := by
        rw [← construct_eq_ok.1 isUpdated]
        exact updated.2
      have inTime := (recovered_check current (clock current List.mem_cons_self)).1 passes
      rcases List.mem_cons.1 reached with rfl | inRest
      · exact absurd late (not_lt.2 inTime)
      · exact ih clockRest (by rw [List.length_append, List.length_singleton]; omega) inRest
    · rw [if_neg isExpired]
      rw [expiredIn_cons, if_neg isExpired, Nat.zero_add] at covers
      rcases List.mem_cons.1 reached with rfl | inRest
      · exact absurd expired isExpired
      · exact ih clockRest covers inRest

/-! ## Every call -/

theorem mem_sorted {stamp : RunRecord → ℤ} : run ∈ store.sorted stamp ↔ run ∈ store.values :=
  (List.perm_insertionSort ..).mem_iff

theorem sorted_stored (store : RunStore) (stamp : RunRecord → ℤ) :
    (∀ run ∈ store.sorted stamp, store.get run.key = some run) ∧
      ((store.sorted stamp).map RunRecord.key).Nodup :=
  ⟨fun _ inside => Keyed.get_of_mem (mem_sorted.1 inside),
    (((List.perm_insertionSort ..).map _).nodup_iff).2 store.nodup⟩

theorem recovered_moves (run : RunRecord) (limit : ℤ) (expired : run.isExpired now = true)
    (isRecovered : run'.val = run.val.recovered now) :
    Moves (.reconcileExpired now limit) run run' where
  key := by
    unfold RunRecord.key
    rw [isRecovered]
    rfl
  request := by rw [isRecovered]; rfl
  requestDigest := by rw [isRecovered]; rfl
  createdAt := by rw [isRecovered]; rfl
  revision := by rw [isRecovered]; rfl
  updatedAt := by rw [isRecovered]; rfl
  movedBy := .sweep now limit expired (by rw [isRecovered]; exact recovered_terminal _ _)
    (by rw [isRecovered]; rfl)

theorem reconcile_step (store : RunStore) (now limit : ℤ) :
    StoreStep (.reconcileExpired now limit) store (store.reconcileExpired now limit).1 := by
  unfold RunStore.reconcileExpired
  split
  swap
  · exact storeStep_same _ _
  obtain ⟨stored, differ⟩ := sorted_stored store (·.val.updatedAt)
  have swept := @sweep_get store now _ limit.toNat [] stored differ
  refine ⟨?_, ?_, ?_⟩
  · intro key run run' isBefore isAfter
    rcases swept key with kept | ⟨found, updated, inside, rfl, expired, isRecovered, isUpdated⟩
    · rw [kept, isBefore] at isAfter
      exact .inl (Option.some.inj isAfter).symm
    rw [stored found inside] at isBefore
    rw [isUpdated] at isAfter
    obtain rfl := Option.some.inj isBefore
    obtain rfl := Option.some.inj isAfter
    exact .inr (recovered_moves found limit expired isRecovered)
  · intro key run isBefore isAfter
    rcases swept key with kept | ⟨found, updated, -, -, -, -, isUpdated⟩
    · rw [kept, isBefore] at isAfter
      cases isAfter
    · rw [isUpdated] at isAfter
      cases isAfter
  · intro key run' isBefore isAfter
    rcases swept key with kept | ⟨found, updated, inside, rfl, -⟩
    · rw [kept, isBefore] at isAfter
      cases isAfter
    · rw [stored found inside] at isBefore
      cases isBefore

/-- What a purge leaves under a key: the run as it is, or nothing. -/
theorem purge_get (purged : List (String × String))
    (stored : ∀ run ∈ runs, ∀ kept, store.get run.key = some kept → kept = run)
    (key : String × String) :
    (RunStore.purge now limit runs store purged).1.get key = store.get key ∨
      (RunStore.purge now limit runs store purged).1.get key = none ∧
        ∀ run, store.get key = some run →
          run.val.state.terminal = true ∧ run.val.retentionUntil ≤ now := by
  induction runs generalizing store purged with
  | nil => exact .inl rfl
  | cons current rest ih =>
    have storedRest : ∀ run ∈ rest, ∀ kept, store.get run.key = some kept → kept = run :=
      fun run inside => stored run (List.mem_cons_of_mem _ inside)
    unfold RunStore.purge
    split
    · exact .inl rfl
    split
    · rename_i isOver
      simp only [Bool.and_eq_true, decide_eq_true_eq] at isOver
      have stillStored : ∀ run ∈ rest, ∀ kept,
          (store.erase current.key).get run.key = some kept → kept = run := by
        intro run inside kept isKept
        rw [Keyed.get_erase] at isKept
        split at isKept
        · cases isKept
        · exact storedRest run inside kept isKept
      by_cases here : key = current.key
      · refine .inr ⟨?_, ?_⟩
        · rcases ih (purged ++ [current.key]) stillStored with kept | ⟨gone, -⟩
          · rw [kept, Keyed.get_erase, if_pos here]
          · exact gone
        · intro run isStored
          rw [here] at isStored
          rw [stored current List.mem_cons_self run isStored]
          exact isOver
      · have apart : (store.erase current.key).get key = store.get key := by
          rw [Keyed.get_erase, if_neg here]
        rcases ih (purged ++ [current.key]) stillStored with kept | ⟨gone, terminal⟩
        · exact .inl (kept.trans apart)
        · rw [apart] at terminal
          exact .inr ⟨gone, terminal⟩
    · exact ih purged storedRest

theorem purge_step (store : RunStore) (now limit : ℤ) :
    StoreStep (.purgeRetained now limit) store (store.purgeRetained now limit).1 := by
  unfold RunStore.purgeRetained
  split
  swap
  · exact storeStep_same _ _
  obtain ⟨stored, -⟩ := sorted_stored store (·.val.retentionUntil)
  have purged := @purge_get store now _ limit.toNat [] fun run inside kept isKept =>
    Option.some.inj (isKept.symm.trans (stored run inside))
  refine ⟨?_, ?_, ?_⟩
  · intro key run run' isBefore isAfter
    rcases purged key with kept | ⟨gone, -⟩
    · rw [kept, isBefore] at isAfter
      exact .inl (Option.some.inj isAfter).symm
    · rw [gone] at isAfter
      cases isAfter
  · intro key run isBefore isAfter
    rcases purged key with kept | ⟨-, terminal⟩
    · rw [kept, isBefore] at isAfter
      cases isAfter
    · obtain ⟨isTerminal, isOver⟩ := terminal run isBefore
      exact ⟨isTerminal, isOver, limit, rfl⟩
  · intro key run' isBefore isAfter
    rcases purged key with kept | ⟨gone, -⟩
    · rw [kept, isBefore] at isAfter
      cases isAfter
    · rw [gone] at isAfter
      cases isAfter

/-- An operation that writes all or nothing. -/
theorem settle_step {α : Type} {outcome : Except RunError (RunStore × α)} {answer : α → Answer}
    (step : ∀ after result, outcome = .ok (after, result) → StoreStep call store after) :
    StoreStep call store (store.settle outcome answer).1 := by
  unfold RunStore.settle
  cases outcome with
  | error error => exact storeStep_same _ _
  | ok result => exact step result.1 result.2 rfl

/-- **Every call moves runs, one revision at a time.** -/
theorem step_moves (store : RunStore) (call : Call) : StoreStep call store (store.step call).1 := by
  cases call with
  | claim owner request terms => exact settle_step fun after (run, isNew) => claim_step
  | reclaim owner key digest revision terms => exact settle_step fun after run => reclaim_step
  | start holding =>
    refine settle_step fun after run isStart => ?_
    unfold RunStore.start at isStart
    rw [bind_eq_ok] at isStart
    obtain ⟨⟨current, lease⟩, isLeased, isWrite⟩ := isStart
    exact storeStep_held rfl rfl isLeased isWrite ⟨rfl, rfl, rfl, rfl, rfl, rfl, rfl, rfl⟩
  | complete holding result usage =>
    refine settle_step fun after run isComplete => ?_
    unfold RunStore.complete at isComplete
    rw [bind_eq_ok] at isComplete
    obtain ⟨⟨current, lease⟩, isLeased, isComplete⟩ := isComplete
    dsimp only at isComplete
    rw [check_bind_eq_ok] at isComplete
    exact storeStep_held rfl rfl isLeased isComplete.2 ⟨rfl, rfl, rfl, rfl, rfl, rfl, rfl, rfl⟩
  | renew holding leaseSeconds ceiling =>
    refine settle_step fun after run isRenew => ?_
    unfold RunStore.renew at isRenew
    rw [check_bind_eq_ok, bind_eq_ok] at isRenew
    obtain ⟨-, ⟨current, lease⟩, isLeased, isRenew⟩ := isRenew
    dsimp only at isRenew
    rw [check_bind_eq_ok] at isRenew
    exact storeStep_held rfl rfl isLeased isRenew.2 ⟨rfl, rfl, rfl, rfl, rfl, rfl, rfl, rfl⟩
  | requestCancel taskId actor isAdmin now =>
    exact settle_step fun after run => requestCancel_step
  | finishCancel holding usage =>
    refine settle_step fun after run isFinish => ?_
    unfold RunStore.finishCancel at isFinish
    rw [bind_eq_ok] at isFinish
    obtain ⟨⟨current, lease⟩, isLeased, isWrite⟩ := isFinish
    exact storeStep_held rfl rfl isLeased isWrite ⟨rfl, rfl, rfl, rfl, rfl, rfl, rfl, rfl⟩
  | fail holding reason usage state =>
    refine settle_step fun after run isFail => ?_
    unfold RunStore.fail at isFail
    rw [check_bind_eq_ok, bind_eq_ok] at isFail
    obtain ⟨-, ⟨current, lease⟩, isLeased, isWrite⟩ := isFail
    exact storeStep_held rfl rfl isLeased isWrite ⟨rfl, rfl, rfl, rfl, rfl, rfl, rfl, rfl⟩
  | reconcileExpired now limit => exact reconcile_step store now limit
  | purgeRetained now limit => exact purge_step store now limit

/-! ## Runs -/

/-- No run was updated after a reading of the clock. -/
def Before (store : RunStore) (now : ℤ) : Prop :=
  ∀ run ∈ store.values, run.val.updatedAt ≤ now

theorem Before.step (before : Before store now) (later : now ≤ call.now) :
    Before (store.step call).1 call.now := by
  have step := step_moves store call
  intro run inside
  have isAfter := Keyed.get_of_mem inside
  rcases isBefore : store.get run.key with _ | old
  · exact (step.created _ _ isBefore isAfter).2.2.1.le
  rcases step.moved _ _ _ isBefore isAfter with rfl | moves
  · exact (before run (Keyed.mem_of_get isBefore)).trans later
  · exact moves.updatedAt.le

/-- In a run whose clock does not go back, no stored run is ahead of the clock. -/
theorem before_storeAfter {calls : List Call}
    (clock : ((calls ++ [call]).map Call.now).Pairwise (· ≤ ·)) :
    Before (RunStore.storeAfter calls) call.now := by
  induction calls using List.reverseRecOn generalizing call with
  | nil =>
    intro run inside
    cases inside
  | append_singleton calls last ih =>
    have isAfter : RunStore.storeAfter (calls ++ [last]) =
        ((RunStore.storeAfter calls).step last).1 := by
      simp [RunStore.storeAfter, List.foldl_append]
    rw [List.map_append, List.pairwise_append] at clock
    obtain ⟨earlier, -, ordered⟩ := clock
    rw [isAfter]
    have before := (ih earlier).step le_rfl
    intro run inside
    exact (before run inside).trans (ordered last.now (by simp) call.now (by simp))

/-- A sweep that does not raise, and ends every run whose lease has expired. -/
def Recovers (store : RunStore) (now limit : ℤ) : Prop :=
  (∃ answer, (store.step (.reconcileExpired now limit)).2 = .ok answer) ∧
    ∀ run ∈ expiredIn now store.values, ∃ run',
      (store.step (.reconcileExpired now limit)).1.get run.key = some run' ∧
        run'.val.state.terminal = true

/-- **When a sweep recovers**: it does exactly if the retention of no expired run is over. -/
theorem recovers_iff {limit : ℤ} (before : Before store now) (inRange : 1 ≤ limit ∧ limit ≤ 10000)
    (covers : ((expiredIn now store.values).length : ℤ) ≤ limit) :
    Recovers store now limit ↔
      ∀ run ∈ expiredIn now store.values, now ≤ run.val.retentionUntil := by
  obtain ⟨stored, differ⟩ := sorted_stored store (·.val.updatedAt)
  have clock : ∀ run ∈ store.sorted (·.val.updatedAt), run.val.updatedAt ≤ now :=
    fun run inside => before run (mem_sorted.1 inside)
  have same : (expiredIn now (store.sorted (·.val.updatedAt))).length =
      (expiredIn now store.values).length :=
    ((List.perm_insertionSort ..).filter _).length_eq
  have room : ([] : List RunRecord).length +
      (expiredIn now (store.sorted (·.val.updatedAt))).length ≤ limit.toNat := by
    rw [same, List.length_nil]
    omega
  unfold Recovers RunStore.step RunStore.reconcileExpired
  dsimp only
  rw [if_pos inRange]
  constructor
  · rintro ⟨⟨answer, answered⟩, -⟩ run isExpired
    by_contra late
    obtain ⟨inside, expired⟩ := mem_expiredIn.1 isExpired
    obtain ⟨error, raised⟩ := @sweep_raises store run now _ limit.toNat [] clock room
      (mem_sorted.2 inside) expired (not_le.1 late)
    rw [raised] at answered
    cases answered
  · intro retained
    obtain ⟨⟨runs, answered⟩, recovers⟩ := sweep_recovers [] stored differ clock room
      fun run inside expired => retained run (mem_expiredIn.2 ⟨mem_sorted.1 inside, expired⟩)
    refine ⟨⟨.reconciled runs, by rw [answered]; rfl⟩, ?_⟩
    intro run isExpired
    obtain ⟨inside, expired⟩ := mem_expiredIn.1 isExpired
    exact recovers run (mem_sorted.2 inside) expired

/-- **Every run of the store**, with a clock that does not go back. A call moves runs one revision at
a time, by who may move them; no run has more than three attempts; and a sweep whose limit covers the
expired runs recovers all of them exactly if the retention of none is over. -/
theorem run_store_kept (calls : List Call) (call : Call)
    (clock : ((calls ++ [call]).map Call.now).Pairwise (· ≤ ·)) :
    StoreStep call (RunStore.storeAfter calls) ((RunStore.storeAfter calls).step call).1 ∧
      (∀ run ∈ ((RunStore.storeAfter calls).step call).1.values, run.val.attemptCount ≤ 3) ∧
      ∀ now limit, call = .reconcileExpired now limit → 1 ≤ limit ∧ limit ≤ 10000 →
        ((expiredIn now (RunStore.storeAfter calls).values).length : ℤ) ≤ limit →
        (Recovers (RunStore.storeAfter calls) now limit ↔
          ∀ run ∈ expiredIn now (RunStore.storeAfter calls).values,
            now ≤ run.val.retentionUntil) := by
  refine ⟨step_moves _ _, fun run _ => run.checked.attempts.2, ?_⟩
  rintro now limit rfl inRange covers
  exact recovers_iff (before_storeAfter clock) inRange covers

/-- A request for the state of a service. -/
def serviceRequest (idempotencyKey : String) : Request :=
  ⟨idempotencyKey, "status", ⟨"api", "scope", none, none⟩, 3600, ["metrics"],
    ⟨60, 100000, 5, 32, 256000⟩, false⟩

/-- A claim whose lease expires within the retention is recovered. -/
theorem run_store_kept_recovered :
    let calls : List Call := [.claim "owner" (serviceRequest "first")
      ⟨.direct, "worker", "token", 0, 10, 100⟩]
    Recovers (RunStore.storeAfter calls) (seconds 20) 100 := by
  intro calls
  have kept := run_store_kept calls (.reconcileExpired (seconds 20) 100) (by decide)
  refine (kept.2.2 _ _ rfl (by decide) (by decide +kernel)).2 ?_
  have expired : (expiredIn (seconds 20) (RunStore.storeAfter calls).values).map
      (·.val.retentionUntil) = [seconds 100] := by decide +kernel
  intro run inside
  have isRetained := List.mem_map_of_mem (f := fun run : RunRecord => run.val.retentionUntil) inside
  rw [expired, List.mem_singleton] at isRetained
  rw [isRetained]
  decide

/-- **A sweep that is blocked.** The lease of the first run outlives its retention, so the sweep
raises there, and the second run, whose lease has expired too, stays claimed. -/
theorem sweep_blocked :
    let calls : List Call := [
      .claim "owner" (serviceRequest "first") ⟨.direct, "worker", "token", 0, 100, 1⟩,
      .claim "owner" (serviceRequest "second") ⟨.direct, "worker", "token", 1, 10, 1000⟩]
    ¬ Recovers (RunStore.storeAfter calls) (seconds 200) 100 ∧
      ((((RunStore.storeAfter calls).step (.reconcileExpired (seconds 200) 100)).1.get
        ("owner", "second")).map (·.val.state)) = some .claimed := by
  intro calls
  have raised : ((RunStore.storeAfter calls).step (.reconcileExpired (seconds 200) 100)).2.toOption =
      none := by decide +kernel
  refine ⟨?_, by decide +kernel⟩
  rintro ⟨⟨answer, answered⟩, -⟩
  rw [answered] at raised
  cases raised

end Fdai.Core.ReadInvestigation
