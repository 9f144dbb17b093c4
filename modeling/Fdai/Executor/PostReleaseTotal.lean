import Fdai.Executor.ClosureSteps
import Fdai.Executor.PostReleaseClosurePlan

/-!
# Post-release closure never gets stuck

The builders of a closure satisfy four validators: of the reservation, of the fence, of the
closure record and of the plan.

* `Assembled` — what the records of a plan have to satisfy; `Assembled.plan` builds it.
* `post_release_closure_total` — every unresolved generation is closed, and every quarantine
  is resolved by evidence about it.
-/

namespace Fdai.Core

open Fdai.Providers (Digest)

theorem construct_of_check {ε α : Type} {check : α → Except ε Unit} {fields : α}
    (passed : check fields = .ok ()) :
    ∃ record, construct check fields = .ok record ∧ record.val = fields :=
  ⟨⟨fields, passed⟩, construct_eq_ok.2 rfl, rfl⟩

theorem identityFromPreRelease_total {preRelease : SafeguardDispatchEvidenceRecord}
    (state : preRelease.val.state = .preRelease) :
    ∃ identity, identityFromPreRelease preRelease = .ok identity ∧
      identity.val = identityFieldsOf preRelease.val.identity := by
  obtain ⟨identity, built, same⟩ : ∃ identity,
      construct ClosureIdentityFields.check (identityFieldsOf preRelease.val.identity) =
        .ok identity ∧ identity.val = identityFieldsOf preRelease.val.identity := by
    refine construct_of_check ?_
    simp only [ClosureIdentityFields.check, validate_cons_eq_ok, validate_nil, dispatchDigest,
      dispatchText, identityFieldsOf, decide_eq_true_eq, and_true]
    exact ⟨rfl, preRelease.val.identity.reservation_wellFormed,
      preRelease.val.identity.target_wellFormed, preRelease.val.identity.identity_wellFormed,
      preRelease.val.identity.audit_wellFormed,
      decide_eq_true preRelease.val.identity.attempt_pos,
      decide_eq_true preRelease.val.identity.generation_pos,
      preRelease.val.identity.correlation_canonical, preRelease.val.identity.key_canonical⟩
  refine ⟨identity, ?_, same⟩
  rw [identityFromPreRelease, check_bind_eq_ok, validate_cons_eq_ok]
  exact ⟨⟨decide_eq_true state, rfl⟩, built⟩

/-- **The records of one dispatch**, as a closure finds them: evidence up to the release, an
attempt whose outcome is open, the fence marked for release, and what became of the lock. -/
structure OneGeneration (preRelease : SafeguardDispatchEvidenceRecord)
    (reservation : IdempotencyReservationRecord) (fence : TargetDispatchFenceRecord)
    (receipt : ResourceLockReleaseReceipt) : Prop where
  observed : preRelease.val.state = .preRelease
  unresolved : reservation.state = .inFlight ∨ reservation.state = .outcomeUnknown
  reserved : reservation.identity.identityDigest = preRelease.val.identity.reservationIdentityDigest
  attempt : reservation.identity.attempt = preRelease.val.identity.reservationAttempt
  /-- The fence is the one the dispatch started under, marked for release. -/
  marked : ∀ start ∈ preRelease.val.dispatchStartCheckpoint, ∃ changedAt,
    markReleasePending start.inFlightFence changedAt = .ok fence
  target : fence.identity.targetDigest = preRelease.val.identity.targetDigest
  generation : fence.identity.generation = preRelease.val.identity.targetFenceGeneration
  fenced : fence.identity.reservationIdentityDigest =
    preRelease.val.identity.reservationIdentityDigest
  acquisition : receipt.val.acquisitionReceipt = reservation.identity.acquisitionReceipt

/-- A time that no record of the dispatch is later than. -/
structure NotBefore (t : ℤ) (reservation : IdempotencyReservationRecord)
    (fence : TargetDispatchFenceRecord) (receipt : ResourceLockReleaseReceipt) : Prop where
  changed : reservation.stateChangedAt ≤ t
  dispatched : ∀ started ∈ reservation.dispatchStartedAt, started ≤ t
  fenced : fence.stateChangedAt ≤ t
  released : receipt.val.recordedAt ≤ t

theorem markReleasePending_state {r result : TargetDispatchFenceRecord} {changedAt : Datetime}
    (built : markReleasePending r changedAt = .ok result) : result.state = .releasePending := by
  rw [markReleasePending, check_bind_eq_ok, nextRecord, bind_eq_ok] at built
  obtain ⟨-, t, -, built⟩ := built
  rw [check_bind_eq_ok] at built
  rw [show result.state = result.toFenceFields.state from rfl, buildFence_ok built.2]
  rfl

/-! ## The closure record -/

/-- How a closure record begins: with a release, or with the quarantine before it. -/
inductive ClosureVerdict.Begins (verdict : ClosureVerdict) : Prop
  | initial (revision : verdict.revision = 1) (prior : verdict.priorRecordDigest = none)
      (phase : verdict.phase = .initial) (evidence : verdict.reconciliationEvidence = none)
      (continuity : verdict.outcome = .resolved → verdict.continuityState = .continuity)
  | reconciled (revision : 2 ≤ verdict.revision)
      (prior : ∃ digest, verdict.priorRecordDigest = some digest ∧ wellFormedDigest digest = true)
      (phase : verdict.phase = .reconciliation)
      (evidence : verdict.reconciliationEvidence.isSome = true)
      (outcome : verdict.outcome = .resolved)

structure Leaves (outcome : PostReleaseClosureOutcome) (reservation : ReservationState)
    (fence : TargetDispatchFenceState) : Prop where
  reservation : reservation =
    match outcome with
    | .resolved => .terminal
    | .quarantined => .outcomeUnknown
  fence : fence = closedState (outcome = .quarantined)

theorem leaves_shape {fields : ClosureRecordFields}
    (leaves : Leaves fields.outcome fields.reservationState fields.fenceState) :
    validate
      [(decide (decide (fields.outcome = .resolved) = decide (fields.fenceState = .resolved)),
          "post-release closure outcome mismatched target fence"),
        (decide (fields.outcome ≠ .resolved) || decide (fields.reservationState = .terminal),
          "resolved post-release closure requires terminal reservation"),
        (decide (fields.outcome = .resolved) || (decide (fields.fenceState = .quarantined) &&
            decide (fields.reservationState = .outcomeUnknown)),
          "quarantined closure requires unknown reservation and fence quarantine")] = .ok () := by
  obtain ⟨reservation, fence⟩ := leaves
  rw [reservation, fence]
  cases fields.outcome with
  | resolved | quarantined => rfl

/-- What the digests and the times of a closure record need. -/
structure ClosureVerdict.Formed (verdict : ClosureVerdict) (recordedAt : ℤ) : Prop where
  continuity : wellFormedDigest verdict.continuityEvidenceDigest = true
  status : verdict.authoritativeStatusDigest.all wellFormedDigest = true
  recorded : recordedAt ≤ verdict.closedAt

variable {t : ℤ}

/-- The instant of a closing time. -/
theorem utc_of_instant {subject name : String} {moment : Datetime}
    (instant : moment.instant? = some t) : utc subject name moment = .ok t := by
  unfold utc
  rw [instant]

/-- **A closure record** whose outcome fits the states of its records passes its checks. -/
theorem closureFields_check {identity : PostReleaseClosureIdentity}
    {preRelease : SafeguardDispatchEvidenceRecord}
    {priorReservation reservation : IdempotencyReservationRecord}
    {priorFence fence : TargetDispatchFenceRecord} {receipt : ResourceLockReleaseReceipt}
    {verdict : ClosureVerdict} (state : preRelease.val.state = .preRelease)
    (begins : verdict.Begins) (leaves : Leaves verdict.outcome reservation.state fence.state)
    (formed : verdict.Formed receipt.val.recordedAt) :
    (closureFields identity preRelease priorReservation reservation priorFence fence receipt
      verdict).check = .ok () := by
  obtain ⟨start, observation, checkpoint, evidence⟩ :=
    SafeguardDispatchEvidenceRecord.preRelease preRelease state
  have released := receipt.sound
  have reservationRevision : 1 ≤ reservation.revision := by
    have least := reservation.sound.revision
    have positive : 1 ≤ reservation.state.minimumRevision := by
      cases reservation.state <;> decide
    omega
  have fenceRevision : 1 ≤ fence.revision := by
    have valid := fence.valid
    simp only [FenceFields.check, check_bind_eq_ok, validate_cons_eq_ok, decide_eq_true_eq] at valid
    exact valid.1.1
  rw [ClosureRecordFields.check, check_bind_eq_ok, check_bind_eq_ok]
  refine ⟨?_, ?_, ?_⟩
  · simp only [validate_cons_eq_ok, validate_nil, dispatchDigest, dispatchDigest?,
      Bool.or_eq_true, Bool.and_eq_true, decide_eq_true_eq, and_true]
    have chronology : receipt.val.observedAt.all (· ≤ receipt.val.recordedAt) = true := by
      rw [Option.all_eq_true]
      intro observed present
      exact decide_eq_true (released.observed observed present)
    have known : receipt.val.state = .unknown ∨ receipt.val.observedAt.isSome = true := by
      by_cases unknown : receipt.val.state = .unknown
      · exact .inl unknown
      · exact .inr (released.known unknown)
    have rest := And.intro (show wellFormedDigest preRelease.val.recordDigest = true from
      evidence.digest) (show 1 ≤ preRelease.val.revision from evidence.revision)
    cases begins with
    | initial revision prior phase _ _ =>
      simp only [closureFields, revision, prior, phase]
      exact ⟨le_refl 1, .inr ⟨rfl, trivial⟩, .inl trivial, rfl, rest.1, rfl, rfl, rfl, rfl, rfl,
        released.attestation, formed.continuity, rfl, rfl, formed.status, rest.2,
        reservationRevision, fenceRevision, ⟨formed.recorded, chronology⟩, known⟩
    | reconciled revision prior phase _ _ =>
      obtain ⟨digest, prior, digestFormed⟩ := prior
      simp only [closureFields, prior, phase]
      exact ⟨by omega, .inl (by omega), .inr ⟨rfl, trivial⟩, digestFormed, rest.1, rfl, rfl, rfl,
        rfl, rfl, released.attestation, formed.continuity, rfl, rfl, formed.status, rest.2,
        reservationRevision, fenceRevision, ⟨formed.recorded, chronology⟩, known⟩
  · rw [ClosureRecordFields.validateShape, check_bind_eq_ok]
    refine ⟨leaves_shape leaves, ?_⟩
    cases begins with
    | initial _ _ phase noEvidence continuity =>
      simp only [closureFields, phase, validate_cons_eq_ok, validate_nil, noEvidence,
        Bool.or_eq_true, decide_eq_true_eq, and_true]
      refine ⟨rfl, ?_⟩
      by_cases resolved : verdict.outcome = .resolved
      · exact .inr (continuity resolved)
      · exact .inl resolved
    | reconciled _ _ phase hasEvidence outcome =>
      simp only [closureFields, phase, validate_cons_eq_ok, validate_nil, Bool.and_eq_true,
        decide_eq_true_eq, and_true]
      exact ⟨hasEvidence, outcome⟩
  · simp only [validate_cons_eq_ok, validate_nil, decide_eq_true_eq, and_true]
    exact ⟨rfl, rfl⟩

/-- **What the records of a plan have to satisfy.** -/
structure Assembled (identity : PostReleaseClosureIdentity)
    (preRelease : SafeguardDispatchEvidenceRecord)
    (priorReservation reservation : IdempotencyReservationRecord)
    (priorFence fence : TargetDispatchFenceRecord) (receipt : ResourceLockReleaseReceipt)
    (verdict : ClosureVerdict) : Prop where
  derived : identityFromPreRelease preRelease = .ok identity
  observed : preRelease.val.state = .preRelease
  begins : verdict.Begins
  leaves : Leaves verdict.outcome reservation.state fence.state
  formed : verdict.Formed receipt.val.recordedAt
  reserved : priorReservation.identity.identityDigest = identity.val.reservationIdentityDigest
  attempt : priorReservation.identity.attempt = identity.val.reservationAttempt
  acquisition : receipt.val.acquisitionReceipt = priorReservation.identity.acquisitionReceipt
  target : priorFence.identity.targetDigest = identity.val.targetDigest
  generation : priorFence.identity.generation = identity.val.targetFenceGeneration
  fenced : priorFence.identity.reservationIdentityDigest = identity.val.reservationIdentityDigest
  pending : verdict.phase = .initial → priorFence.state = .releasePending ∧
    ∀ start ∈ preRelease.val.dispatchStartCheckpoint,
      validateFenceTransition start.inFlightFence priorFence = .ok ()
  held : verdict.phase = .reconciliation → priorFence.state = .quarantined
  reservationStep : reservation = priorReservation ∨
    validateTransition priorReservation reservation = .ok ()
  fenceStep : validateFenceTransition priorFence fence = .ok ()

/-- **The plan of such records** is built. -/
theorem Assembled.plan {identity : PostReleaseClosureIdentity}
    {preRelease : SafeguardDispatchEvidenceRecord}
    {priorReservation reservation : IdempotencyReservationRecord}
    {priorFence fence : TargetDispatchFenceRecord} {receipt : ResourceLockReleaseReceipt}
    {verdict : ClosureVerdict}
    (assembled : Assembled identity preRelease priorReservation reservation priorFence fence
      receipt verdict) :
    ∃ (record : PostReleaseClosureRecord) (plan : PostReleaseClosurePlan),
      createPostReleaseClosureRecord identity preRelease priorReservation reservation priorFence
          fence receipt verdict = .ok record ∧
        construct ClosurePlanFields.check
          { preReleaseRecord := preRelease, priorReservationRecord := priorReservation
            reservationRecord := reservation, priorFenceRecord := priorFence
            fenceRecord := fence, releaseReceipt := receipt, record } = .ok plan ∧
        plan.val =
          { preReleaseRecord := preRelease, priorReservationRecord := priorReservation
            reservationRecord := reservation, priorFenceRecord := priorFence
            fenceRecord := fence, releaseReceipt := receipt, record } ∧
        record.val = closureFields identity preRelease priorReservation reservation priorFence
          fence receipt verdict := by
  have recordCheck : (closureFields identity preRelease priorReservation reservation priorFence
      fence receipt verdict).check = .ok () :=
    closureFields_check assembled.observed assembled.begins assembled.leaves assembled.formed
  obtain ⟨record, created, fields⟩ := construct_of_check recordCheck
  obtain ⟨start, observation, checkpoint, evidence⟩ :=
    SafeguardDispatchEvidenceRecord.preRelease preRelease assembled.observed
  have same : record.val.identity = identity := congrArg (·.identity) fields
  have phase : record.val.phase = verdict.phase := congrArg (·.phase) fields
  have step : ClosurePlanFields.validateReservationStep
      { preReleaseRecord := preRelease, priorReservationRecord := priorReservation
        reservationRecord := reservation, priorFenceRecord := priorFence
        fenceRecord := fence, releaseReceipt := receipt, record } = .ok () := by
    unfold ClosurePlanFields.validateReservationStep
    split
    · rfl
    · rename_i moved
      exact assembled.reservationStep.resolve_left moved
  have predecessor : ClosurePlanFields.validateFencePredecessor
      { preReleaseRecord := preRelease, priorReservationRecord := priorReservation
        reservationRecord := reservation, priorFenceRecord := priorFence
        fenceRecord := fence, releaseReceipt := receipt, record } start = .ok () := by
    unfold ClosurePlanFields.validateFencePredecessor
    cases is : verdict.phase with
    | initial =>
      obtain ⟨state, follows⟩ := assembled.pending is
      simp only [phase, is, check_bind_eq_ok, validate_cons_eq_ok, validate_nil,
        decide_eq_true_eq, and_true]
      exact ⟨state, follows start evidence.start⟩
    | reconciliation =>
      simp only [phase, is, validate_cons_eq_ok, validate_nil, decide_eq_true_eq, and_true]
      exact assembled.held is
  have planCheck : ClosurePlanFields.check
      { preReleaseRecord := preRelease, priorReservationRecord := priorReservation
        reservationRecord := reservation, priorFenceRecord := priorFence
        fenceRecord := fence, releaseReceipt := receipt, record } = .ok () := by
    rw [ClosurePlanFields.check, check_bind_eq_ok, validate_cons_eq_ok]
    refine ⟨⟨decide_eq_true assembled.observed, rfl⟩, ?_⟩
    show (identityFromPreRelease preRelease >>= _) = _
    rw [assembled.derived, bind_eq_ok]
    refine ⟨identity, rfl, ?_⟩
    rw [check_bind_eq_ok, validate_cons_eq_ok]
    refine ⟨⟨decide_eq_true same.symm, rfl⟩, ?_⟩
    simp only [evidence.start, same]
    rw [check_bind_eq_ok]
    refine ⟨?_, ?_⟩
    · simp only [validate_cons_eq_ok, validate_nil, Bool.and_eq_true, decide_eq_true_eq, and_true]
      exact ⟨⟨⟨assembled.reserved, assembled.attempt⟩, assembled.acquisition⟩,
        ⟨assembled.target, assembled.generation⟩, assembled.fenced⟩
    rw [predecessor, check_bind_eq_ok]
    refine ⟨rfl, ?_⟩
    rw [step, check_bind_eq_ok]
    refine ⟨rfl, ?_⟩
    show (validateFenceTransition priorFence fence >>= _) = _
    rw [assembled.fenceStep, check_bind_eq_ok]
    refine ⟨rfl, ?_⟩
    simp only [ClosurePlanFields.validateRecordFields, fields, validate_cons_eq_ok, validate_nil,
      Bool.and_eq_true, decide_eq_true_eq, and_true]
    simp only [closureFields, and_self]
  obtain ⟨plan, built, planFields⟩ := construct_of_check planCheck
  exact ⟨record, plan, created, built, planFields, fields⟩

/-! ## Closing a release -/

/-- What the closing of a reservation leaves. -/
structure ReservationClosed (r result : IdempotencyReservationRecord)
    (outcome : PostReleaseClosureOutcome) (t : ℤ) : Prop where
  step : result = r ∨ validateTransition r result = .ok ()
  state : result.state =
    match outcome with
    | .resolved => .terminal
    | .quarantined => .outcomeUnknown
  changed : result.stateChangedAt ≤ t
  dispatched : result.dispatchStartedAt = r.dispatchStartedAt
  identity : result.identity = r.identity

private theorem ClosedAs.closed {r result : IdempotencyReservationRecord}
    {state : ReservationState} {outcome : PostReleaseClosureOutcome}
    (closed : ClosedAs r result state t)
    (same : state = match outcome with
      | .resolved => .terminal
      | .quarantined => .outcomeUnknown) :
    ReservationClosed r result outcome t :=
  ⟨.inr closed.accepted, closed.state.trans same, Int.le_of_eq closed.changed, closed.dispatched,
    closed.identity⟩

variable {continuity : Digest}

/-- **The reservation of an initial closure** is completed, quarantined or left unknown. -/
theorem initialReservation_total {reservation : IdempotencyReservationRecord}
    {observation : SafeguardDispatchObservation} {outcome : PostReleaseClosureOutcome}
    (open' : Unresolved reservation t)
    (formed : wellFormedDigest continuity = true)
    (terminal : outcome = .resolved → observation.val.sinkState.isTerminal = true) :
    ∃ result, initialReservation reservation t observation outcome continuity = .ok result ∧
      ReservationClosed reservation result outcome t := by
  cases outcome with
  | resolved =>
    obtain ⟨status, present, statusFormed⟩ :=
      SafeguardDispatchObservation.status_of_terminal observation (terminal rfl)
    obtain ⟨result, built, closed⟩ := completeReservation_total
      (observation.val.sinkState = .notAccepted) open' formed statusFormed
    refine ⟨result, ?_, closed.closed rfl⟩
    simp only [initialReservation, present]
    exact built
  | quarantined =>
    by_cases unknown : reservation.state = .outcomeUnknown
    · refine ⟨reservation, ?_, .inl rfl, unknown, open'.changed, rfl, rfl⟩
      simp only [initialReservation, if_pos unknown]
    have inFlight := open'.state.resolve_right unknown
    obtain ⟨result, built, closed⟩ := quarantineReservation_total open' inFlight formed
    refine ⟨result, ?_, closed.closed rfl⟩
    simp only [initialReservation, if_neg unknown]
    exact built

/-- **The plan of an initial closure.** -/
structure ClosesInitially (preRelease : SafeguardDispatchEvidenceRecord)
    (reservation : IdempotencyReservationRecord) (fence : TargetDispatchFenceRecord)
    (receipt : ResourceLockReleaseReceipt) (t : ℤ) (checkpoint : PreReleaseOwnershipCheckpoint)
    (observation : SafeguardDispatchObservation) (forceQuarantine : Bool)
    (plan : PostReleaseClosurePlan) : Prop where
  observed : plan.val.preReleaseRecord = preRelease
  released : plan.val.releaseReceipt = receipt
  closed : ReservationClosed reservation plan.val.reservationRecord plan.val.record.val.outcome t
  fenced : plan.val.fenceRecord.toFenceFields =
    closedFence fence (plan.val.record.val.outcome = .quarantined)
      (resolutionDigest (continuityDigest preRelease checkpoint observation receipt none) none) t
  recorded : ∃ identity continuityState, identityFromPreRelease preRelease = .ok identity ∧
    plan.val.record.val = closureFields identity preRelease reservation plan.val.reservationRecord
      fence plan.val.fenceRecord receipt
      { revision := 1, priorRecordDigest := none, phase := .initial
        outcome := plan.val.record.val.outcome, continuityState
        continuityEvidenceDigest :=
          continuityDigest preRelease checkpoint observation receipt none
        authoritativeStatusDigest := observation.val.authoritativeStatusDigest
        reconciliationEvidence := none, closedAt := t }
  /-- The generation is resolved if its ownership was current at the checkpoint, the lock was
  released and the sink state is terminal, unless a quarantine is forced. -/
  resolves : plan.val.record.val.outcome = .resolved ↔ forceQuarantine = false ∧
    checkpoint.continuityState = .current ∧ receipt.val.state = .released ∧
      observation.val.sinkState.isTerminal = true

theorem initialOutcome_eq_resolved (checkpoint : PreReleaseOwnershipCheckpoint)
    (observation : SafeguardDispatchObservation) (receipt : ResourceLockReleaseReceipt)
    (forceQuarantine : Bool) :
    initialOutcome (if forceQuarantine then .continuityUnproven
        else initialContinuityState checkpoint observation receipt) = .resolved ↔
      forceQuarantine = false ∧ checkpoint.continuityState = .current ∧
        receipt.val.state = .released ∧ observation.val.sinkState.isTerminal = true := by
  cases forceQuarantine with
  | true => simp [initialOutcome]
  | false =>
    simp only [initialContinuityState, Bool.false_eq_true, if_false, true_and]
    split
    · rename_i proven
      simp only [Bool.and_eq_true, decide_eq_true_eq] at proven
      exact ⟨fun _ => ⟨proven.1.1, proven.1.2, proven.2⟩, fun _ => rfl⟩
    rename_i unproven
    simp only [Bool.and_eq_true, decide_eq_true_eq] at unproven
    constructor
    · intro resolved
      cases resolved
    · rintro ⟨current, released, terminal⟩
      exact absurd ⟨⟨current, released⟩, terminal⟩ unproven

theorem continuity_of_resolved {state : PostReleaseContinuityState}
    (resolved : initialOutcome state = .resolved) : state = .continuity := by
  cases state with
  | continuity => rfl
  | continuityUnproven => cases resolved

section

variable {preRelease : SafeguardDispatchEvidenceRecord}
  {reservation : IdempotencyReservationRecord} {fence : TargetDispatchFenceRecord}
  {receipt : ResourceLockReleaseReceipt} {start : SafeguardDispatchStartCheckpoint}
  {observation : SafeguardDispatchObservation} {checkpoint : PreReleaseOwnershipCheckpoint}

variable {t : ℤ}

/-- **Every release of a generation is closed.** -/
theorem buildInitial_total (generation : OneGeneration preRelease reservation fence receipt)
    (evidence : PreReleaseEvidence preRelease.val start observation checkpoint)
    {closedAt : Datetime} (closing : closedAt.instant? = some t)
    (notBefore : NotBefore t reservation fence receipt) (forceQuarantine : Bool) :
    ∃ plan, buildInitialPostReleaseClosure preRelease reservation fence receipt closedAt
        forceQuarantine = .ok plan ∧
      ClosesInitially preRelease reservation fence receipt t checkpoint observation
        forceQuarantine plan := by
  obtain ⟨identity, derived, identityFields⟩ := identityFromPreRelease_total generation.observed
  obtain ⟨changedAt, marked⟩ := generation.marked start evidence.start
  have pending := markReleasePending_state marked
  have open' : Unresolved reservation t :=
    ⟨generation.unresolved, notBefore.changed, notBefore.dispatched⟩
  -- What the continuity state decides stays abstract from here on.
  have decides := initialOutcome_eq_resolved checkpoint observation receipt forceQuarantine
  revert decides
  generalize stateIs : (if forceQuarantine then PostReleaseContinuityState.continuityUnproven
    else initialContinuityState checkpoint observation receipt) = state
  intro decides
  generalize outcomeIs : initialOutcome state = outcome at decides
  generalize continuityIs : continuityDigest preRelease checkpoint observation receipt none =
    continuity
  have formed : wellFormedDigest continuity = true := by
    rw [← continuityIs]
    rfl
  have terminal : outcome = .resolved → observation.val.sinkState.isTerminal = true :=
    fun resolved => (decides.1 resolved).2.2.2
  obtain ⟨nextReservation, reserved, closed⟩ := initialReservation_total open' formed terminal
  obtain ⟨nextFence, closes, fenced⟩ := closeAfterRelease_total (outcome = .quarantined)
    (resolutionDigest continuity none) notBefore.fenced rfl (.inl pending)
  have assembled : Assembled identity preRelease reservation nextReservation fence nextFence receipt
      { revision := 1, priorRecordDigest := none, phase := .initial, outcome
        continuityState := state, continuityEvidenceDigest := continuity
        authoritativeStatusDigest := observation.val.authoritativeStatusDigest
        reconciliationEvidence := none, closedAt := t } :=
    { derived
      observed := generation.observed
      begins := .initial rfl rfl rfl rfl fun resolved =>
        continuity_of_resolved (outcomeIs.trans resolved)
      leaves := ⟨closed.state, congrArg (·.state) fenced⟩
      formed := ⟨formed, SafeguardDispatchObservation.status_formed observation, notBefore.released⟩
      reserved := by
        rw [identityFields]
        exact generation.reserved
      attempt := by
        rw [identityFields]
        exact generation.attempt
      acquisition := generation.acquisition
      target := by
        rw [identityFields]
        exact generation.target
      generation := by
        rw [identityFields]
        exact generation.generation
      fenced := by
        rw [identityFields]
        exact generation.fenced
      pending := fun _ => ⟨pending, fun other present => by
        obtain rfl := Option.some.inj (evidence.start.symm.trans present)
        exact markReleasePending_accepted marked⟩
      held := fun phase => by cases phase
      reservationStep := closed.step
      fenceStep := closeAfterRelease_accepted closes }
  obtain ⟨record, plan, created, built, planFields, recordFields⟩ := assembled.plan
  have outcomeKept : plan.val.record.val.outcome = outcome := by
    rw [planFields]
    exact congrArg (·.outcome) recordFields
  refine ⟨plan, ?_, ?_⟩
  · show (identityFromPreRelease preRelease >>= _) = _
    rw [derived, bind_eq_ok]
    refine ⟨identity, rfl, ?_⟩
    rw [utc_of_instant closing, bind_eq_ok]
    refine ⟨t, rfl, ?_⟩
    simp only [evidence.checkpoint, evidence.observation]
    rw [check_bind_eq_ok]
    refine ⟨?_, ?_⟩
    · simp only [validate_cons_eq_ok, validate_nil, Bool.or_eq_true, decide_eq_true_eq, and_true]
      exact ⟨pending, generation.unresolved, generation.acquisition⟩
    simp only [stateIs, outcomeIs, continuityIs]
    rw [reserved, bind_eq_ok]
    refine ⟨nextReservation, rfl, ?_⟩
    rw [closes, bind_eq_ok]
    refine ⟨nextFence, rfl, ?_⟩
    rw [created, bind_eq_ok]
    exact ⟨record, rfl, built⟩
  · rw [← outcomeKept] at decides
    have sameReservation : plan.val.reservationRecord = nextReservation := by rw [planFields]
    have sameFence : plan.val.fenceRecord = nextFence := by rw [planFields]
    refine ⟨by rw [planFields], by rw [planFields], ?_, ?_, ⟨identity, state, derived, ?_⟩, decides⟩
    · rw [sameReservation, outcomeKept]
      exact closed
    · rw [sameFence, outcomeKept, continuityIs]
      exact fenced
    · rw [sameReservation, sameFence, outcomeKept, continuityIs, planFields]
      exact recordFields

/-! ## Reconciling a quarantine -/

structure About (evidence : PostReleaseReconciliationEvidence) (identity : ClosureIdentityFields) :
    Prop where
  target : evidence.val.targetDigest = identity.targetDigest
  generation : evidence.val.targetFenceGeneration = identity.targetFenceGeneration
  evidence : evidence.val.evidenceIdentityDigest = identity.evidenceIdentityDigest

variable {evidence : PostReleaseReconciliationEvidence}

theorem reconciledReservation_total {r : IdempotencyReservationRecord} (open' : Unresolved r t)
    (formed : wellFormedDigest continuity = true) :
    ∃ result, reconciledReservation r t evidence continuity = .ok result ∧
      ClosedAs r result .terminal t := by
  have checked := evidence.property
  simp only [ReconciliationEvidenceFields.check, validate_cons_eq_ok, dispatchDigest] at checked
  obtain ⟨-, -, -, evidenceFormed, appendFormed, -⟩ := checked
  unfold reconciledReservation
  cases evidence.val.kind with
  | authoritativeSinkStatus => exact completeReservation_total _ open' formed evidenceFormed
  | independentEffect => exact completeWith_total open' (.inr (.inr rfl)) formed appendFormed

/-- The evidence of a reconciliation is fresh: the quarantine was closed without any. -/
theorem resolutionDigest_fresh {continuity' : Digest} :
    some (resolutionDigest continuity none) ≠ some (resolutionDigest continuity' (some evidence)) := by
  intro same
  simp [resolutionDigest, absentOrDigest, Digest.ofFields] at same

theorem reconciledStatus_formed {prior : PostReleaseClosureRecord} :
    (reconciledStatus prior evidence).all wellFormedDigest = true := by
  have checked := evidence.property
  simp only [ReconciliationEvidenceFields.check, validate_cons_eq_ok, dispatchDigest] at checked
  have priorChecked := prior.property
  simp only [ClosureRecordFields.check, check_bind_eq_ok, validate_cons_eq_ok, dispatchDigest?]
    at priorChecked
  unfold reconciledStatus
  cases evidence.val.kind with
  | authoritativeSinkStatus => exact checked.2.2.2.1
  | independentEffect => exact priorChecked.1.2.2.2.2.2.2.2.2.2.2.2.2.2.2.1

/-- **A quarantine is resolved** by evidence about its generation. -/
theorem buildReconciled_total (generation : OneGeneration preRelease reservation fence receipt)
    (evidence : PreReleaseEvidence preRelease.val start observation checkpoint)
    (notBefore : NotBefore t reservation fence receipt) {forceQuarantine : Bool}
    {plan : PostReleaseClosurePlan}
    (initial : ClosesInitially preRelease reservation fence receipt t checkpoint observation
      forceQuarantine plan)
    (quarantined : plan.val.record.val.outcome = .quarantined)
    {reconciliation : PostReleaseReconciliationEvidence}
    (about : About reconciliation plan.val.record.val.identity.val)
    (after : plan.val.record.val.closedAt ≤ reconciliation.val.persistedAt)
    {reconciledAt : Datetime} {t' : ℤ} (instant : reconciledAt.instant? = some t')
    (later : reconciliation.val.persistedAt ≤ t') :
    ∃ plan', buildReconciledPostReleaseClosure plan.val.record plan.val.preReleaseRecord
        plan.val.reservationRecord plan.val.fenceRecord plan.val.releaseReceipt reconciliation
        reconciledAt = .ok plan' ∧
      plan'.val.record.val.outcome = .resolved ∧ plan'.val.fenceRecord.state = .resolved ∧
        plan'.val.reservationRecord.state = .terminal := by
  obtain ⟨observed, released, closed, fenced, ⟨identity, state, derived, recorded⟩, -⟩ := initial
  rw [quarantined] at closed fenced recorded
  obtain ⟨identity', derived', identityFields⟩ := identityFromPreRelease_total generation.observed
  obtain rfl := Except.ok.inj (derived.symm.trans derived')
  have sameIdentity : plan.val.record.val.identity = identity := congrArg (·.identity) recorded
  have sameTime : plan.val.record.val.closedAt = t := congrArg (·.closedAt) recorded
  rw [sameIdentity] at about
  rw [sameTime] at after
  rw [observed, released]
  have open' : Unresolved plan.val.reservationRecord t' := by
    refine ⟨.inr closed.state, ?_, ?_⟩
    · have changed := closed.changed
      omega
    · rw [closed.dispatched]
      intro started present
      have before := notBefore.dispatched started present
      omega
  generalize continuityIs : continuityDigest preRelease checkpoint observation receipt
    (some reconciliation) = continuity
  have formed : wellFormedDigest continuity = true := by
    rw [← continuityIs]
    rfl
  obtain ⟨nextReservation, reserved, completed⟩ :=
    reconciledReservation_total open' formed
  have held : plan.val.fenceRecord.state = .quarantined := congrArg (·.state) fenced
  have fenceIdentity : plan.val.fenceRecord.identity = fence.identity :=
    congrArg (·.identity) fenced
  have fenceTime : plan.val.fenceRecord.stateChangedAt = t := congrArg (·.stateChangedAt) fenced
  have fresh : plan.val.fenceRecord.resolutionEvidenceDigest ≠
      some (resolutionDigest continuity (some reconciliation)) := by
    rw [show plan.val.fenceRecord.resolutionEvidenceDigest = some (resolutionDigest _ none) from
      congrArg (·.resolutionEvidenceDigest) fenced]
    exact resolutionDigest_fresh
  have fenceBefore : plan.val.fenceRecord.stateChangedAt ≤ t' := by omega
  obtain ⟨nextFence, closes, nextFenced⟩ := closeAfterRelease_total false
    (resolutionDigest continuity (some reconciliation)) fenceBefore rfl (.inr ⟨held, rfl, fresh⟩)
  have assembled : Assembled identity preRelease plan.val.reservationRecord nextReservation
      plan.val.fenceRecord nextFence receipt
      { revision := plan.val.record.val.revision + 1
        priorRecordDigest := some plan.val.record.val.recordDigest, phase := .reconciliation
        outcome := .resolved, continuityState := plan.val.record.val.continuityState
        continuityEvidenceDigest := continuity
        authoritativeStatusDigest := reconciledStatus plan.val.record reconciliation
        reconciliationEvidence := some reconciliation, closedAt := t' } :=
    { derived
      observed := generation.observed
      begins := by
        have first : plan.val.record.val.revision = 1 := congrArg (·.revision) recorded
        refine .reconciled ?_ ⟨_, rfl, rfl⟩ rfl rfl rfl
        show 2 ≤ plan.val.record.val.revision + 1
        omega
      leaves := ⟨completed.state, congrArg (·.state) nextFenced⟩
      formed := by
        have recordedBefore := notBefore.released
        refine ⟨formed, reconciledStatus_formed, ?_⟩
        show receipt.val.recordedAt ≤ t'
        omega
      reserved := by
        rw [closed.identity, identityFields]
        exact generation.reserved
      attempt := by
        rw [closed.identity, identityFields]
        exact generation.attempt
      acquisition := by
        rw [closed.identity]
        exact generation.acquisition
      target := by
        rw [fenceIdentity, identityFields]
        exact generation.target
      generation := by
        rw [fenceIdentity, identityFields]
        exact generation.generation
      fenced := by
        rw [fenceIdentity, identityFields]
        exact generation.fenced
      pending := fun phase => by cases phase
      held := fun _ => held
      reservationStep := .inr completed.accepted
      fenceStep := closeAfterRelease_accepted closes }
  obtain ⟨record, next, created, built, nextFields, recordFields⟩ := assembled.plan
  refine ⟨next, ?_, ?_, ?_, ?_⟩
  · show (validate _ >>= _) = _
    rw [check_bind_eq_ok]
    refine ⟨?_, ?_⟩
    · simp only [validate_cons_eq_ok, validate_nil, decide_eq_true_eq, and_true]
      exact quarantined
    rw [derived, bind_eq_ok]
    refine ⟨identity, rfl, ?_⟩
    rw [check_bind_eq_ok]
    refine ⟨?_, ?_⟩
    · simp only [validateReconciliation, validate_cons_eq_ok, validate_nil, Bool.and_eq_true,
        decide_eq_true_eq, and_true, recorded]
      exact ⟨rfl, ⟨rfl, rfl⟩, ⟨⟨⟨⟨rfl, rfl⟩, rfl⟩, rfl⟩, rfl⟩,
        ⟨⟨about.target, about.generation⟩, about.evidence⟩, after⟩
    rw [utc_of_instant instant, bind_eq_ok]
    refine ⟨t', rfl, ?_⟩
    rw [check_bind_eq_ok]
    refine ⟨?_, ?_⟩
    · simp only [validate_cons_eq_ok, validate_nil, Bool.and_eq_true, decide_eq_true_eq, and_true,
        recorded]
      exact ⟨later, rfl, rfl⟩
    simp only [evidence.checkpoint, evidence.observation, continuityIs]
    rw [reserved, bind_eq_ok]
    refine ⟨nextReservation, rfl, ?_⟩
    rw [closes, bind_eq_ok]
    refine ⟨nextFence, rfl, ?_⟩
    rw [created, bind_eq_ok]
    exact ⟨record, rfl, built⟩
  · rw [nextFields]
    exact congrArg (·.outcome) recordFields
  · rw [nextFields]
    exact congrArg (·.state) nextFenced
  · rw [nextFields]
    exact completed.state

/-- A plan that resolves its generation: the target is no longer fenced. -/
structure Resolves (plan : PostReleaseClosurePlan) : Prop where
  outcome : plan.val.record.val.outcome = .resolved
  fence : plan.val.fenceRecord.state = .resolved
  reservation : plan.val.reservationRecord.state = .terminal

/-- **Closure is total and safe.** Every unresolved generation is closed by a plan that passes
its own checks. The plan resolves the generation only if ownership was current at the
checkpoint, the lock was released and the sink state is terminal. If the plan quarantines it,
evidence about that generation that is persisted later resolves it. -/
theorem post_release_closure_total
    (generation : OneGeneration preRelease reservation fence receipt) {closedAt : Datetime}
    {t : ℤ} (closing : closedAt.instant? = some t)
    (notBefore : NotBefore t reservation fence receipt) (forceQuarantine : Bool) :
    ∃ plan, buildInitialPostReleaseClosure preRelease reservation fence receipt closedAt
        forceQuarantine = .ok plan ∧ plan.val.check = .ok () ∧
      (plan.val.record.val.outcome = .resolved ∨ plan.val.fenceRecord.state = .resolved →
        ∃ checkpoint ∈ preRelease.val.preReleaseCheckpoint,
          ∃ observation ∈ preRelease.val.dispatchObservation,
            checkpoint.continuityState = .current ∧ receipt.val.state = .released ∧
              observation.val.sinkState.isTerminal = true) ∧
      (plan.val.record.val.outcome = .quarantined →
        ∀ reconciliation, About reconciliation plan.val.record.val.identity.val →
          plan.val.record.val.closedAt ≤ reconciliation.val.persistedAt →
          ∀ reconciledAt t', reconciledAt.instant? = some t' → reconciliation.val.persistedAt ≤ t' →
            ∃ plan', buildReconciledPostReleaseClosure plan.val.record plan.val.preReleaseRecord
                plan.val.reservationRecord plan.val.fenceRecord plan.val.releaseReceipt
                reconciliation reconciledAt = .ok plan' ∧ Resolves plan') := by
  obtain ⟨start, observation, checkpoint, evidence⟩ :=
    SafeguardDispatchEvidenceRecord.preRelease preRelease generation.observed
  obtain ⟨plan, built, initial⟩ :=
    buildInitial_total generation evidence closing notBefore forceQuarantine
  refine ⟨plan, built, plan.property, ?_, ?_⟩
  · intro resolves
    have resolved : plan.val.record.val.outcome = .resolved := by
      rcases resolves with outcome | unfenced
      · exact outcome
      cases outcome : plan.val.record.val.outcome with
      | resolved => rfl
      | quarantined =>
        have state : plan.val.fenceRecord.state = closedState _ :=
          congrArg (·.state) initial.fenced
        rw [unfenced, outcome] at state
        cases state
    obtain ⟨-, current, released, terminal⟩ := initial.resolves.1 resolved
    exact ⟨checkpoint, evidence.checkpoint, observation, evidence.observation, current, released,
      terminal⟩
  · intro quarantined reconciliation about after reconciledAt t' instant later
    obtain ⟨plan', reconciled, outcome, unfenced, completed⟩ := buildReconciled_total generation
      evidence notBefore initial quarantined about after instant later
    exact ⟨plan', reconciled, outcome, unfenced, completed⟩

end

namespace TestClosure

/-- The generation of one machine, for the attempt in flight. -/
def fenceIdentity : TargetDispatchFenceIdentity :=
  { TestTarget.identity 1 0 Nat.one_pos with
    reservationIdentityDigest := TestKey.inFlight.identity.identityDigest
    reservation_wellFormed := rfl }

def inFlight : TargetDispatchFenceRecord :=
  { identity := fenceIdentity, state := .inFlight, revision := 3
    priorRecordDigest := some (.ofTexts ["prepared"])
    auditAppendReceiptDigest := some (.ofTexts ["audit"])
    safeguardBundleDigest := some (.ofTexts ["bundle"]), stateChangedAt := 12
    valid := by decide +kernel }

def releasePending : TargetDispatchFenceRecord :=
  { nextFields inFlight .releasePending 14 {} with valid := by decide +kernel }

/-- The sink accepted the dispatch, and did not commit it yet. -/
def observation : SafeguardDispatchObservation :=
  ⟨{ evidenceIdentityDigest := .ofTexts ["evidence"], sinkState := .accepted
     sinkOperationReferenceDigest := some (.ofTexts ["operation"])
     authoritativeStatusDigest := some (.ofTexts ["status"]), dispatchStartedAt := 12
     observedAt := 13, observationDigest := .ofTexts ["observation"] }, by decide +kernel⟩

/-- Evidence up to the release. -/
def preRelease : SafeguardDispatchEvidenceRecord :=
  ⟨{ identity :=
      { targetDigest := fenceIdentity.targetDigest, targetFenceGeneration := 1
        reservationIdentityDigest := TestKey.inFlight.identity.identityDigest
        reservationAttempt := 1, auditAppendReceiptDigest := .ofTexts ["audit"]
        clientCorrelationId := "corr", sinkIdempotencyKey := "sink"
        identityDigest := .ofTexts ["evidence"], target_wellFormed := rfl
        generation_pos := Nat.one_pos, reservation_wellFormed := rfl, attempt_pos := Nat.one_pos
        audit_wellFormed := rfl, correlation_canonical := fenceIdentity.correlation_canonical
        key_canonical := fenceIdentity.key_canonical, identity_wellFormed := rfl }
     state := .preRelease, revision := 4, priorRecordDigest := some (.ofTexts ["observed"])
     dispatchStartCheckpoint := some
      { evidenceIdentityDigest := .ofTexts ["evidence"], inFlightFence := inFlight
        checkpointDigest := .ofTexts ["start"] }
     dispatchObservation := some observation
     preReleaseCheckpoint := some
      { evidenceIdentityDigest := .ofTexts ["evidence"], continuityState := .current
        checkpointDigest := .ofTexts ["checkpoint"], checkpoint_wellFormed := rfl }
     stateChangedAt := 14, recordDigest := .ofTexts ["pre-release"] }, by decide +kernel⟩

def released : ResourceLockReleaseReceipt :=
  ⟨{ acquisitionReceipt := TestKey.inFlight.identity.acquisitionReceipt, state := .released
     providerAttestationDigest := .ofTexts ["attestation"], observedAt := some 15
     recordedAt := 15 }, by decide +kernel⟩

end TestClosure

open TestClosure in
/-- A release whose sink outcome is open is closed, by a plan that can be reconciled. -/
theorem post_release_closure_total_accepted :
    ∃ plan, buildInitialPostReleaseClosure preRelease TestKey.inFlight releasePending released
      (.aware 16) false = .ok plan ∧ plan.val.check = .ok () := by
  have generation : OneGeneration preRelease TestKey.inFlight releasePending released := by
    refine ⟨rfl, .inl rfl, rfl, rfl, ?_, rfl, rfl, rfl, rfl⟩
    rintro start ⟨⟩
    exact ⟨.aware 14, rfl⟩
  have notBefore : NotBefore 16 TestKey.inFlight releasePending released := by
    refine ⟨by decide, ?_, by decide, by decide⟩
    rintro started ⟨⟩
    decide
  have closing : (Datetime.aware 16).instant? = some 16 := rfl
  obtain ⟨plan, built, checked, -⟩ := post_release_closure_total generation closing notBefore false
  exact ⟨plan, built, checked⟩

end Fdai.Core
