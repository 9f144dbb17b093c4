import Fdai.Executor.ReservationLifecycle
import Fdai.Executor.TargetFenceChain

/-!
# Closing steps that succeed

When the builders that close a reservation and a fence return a record.

* `completeWith_total`, `quarantineReservation_total` — the reservation closes.
* `closeAfterRelease_total` — the fence closes.
-/

namespace Fdai.Core

open Fdai.Providers (Digest)

/-! ## Reservations -/

theorem buildReservation_of_check {fields : ReservationFields} (valid : fields.check = .ok ()) :
    buildReservation fields = .ok { fields with valid } := by
  unfold buildReservation
  split
  · rfl
  rename_i message failed
  rw [valid] at failed
  cases failed

/-- An attempt that was dispatched and whose outcome is open at a time. -/
structure Unresolved (r : IdempotencyReservationRecord) (t : ℤ) : Prop where
  state : r.state = .inFlight ∨ r.state = .outcomeUnknown
  changed : r.stateChangedAt ≤ t
  dispatched : ∀ started ∈ r.dispatchStartedAt, started ≤ t

variable {r : IdempotencyReservationRecord} {t : ℤ}

/-- An unresolved attempt has a dispatch time. -/
theorem Unresolved.started (open' : Unresolved r t) :
    ∃ started, r.dispatchStartedAt = some started ∧ started ≤ t := by
  have shape := r.sound.shape
  rcases open'.state with state | state
  · have started := (inFlight_shape shape state).1
    exact ⟨_, started, open'.changed⟩
  simp only [validateStateShape, state, validate_cons_eq_ok, Bool.and_eq_true] at shape
  obtain ⟨started, same⟩ := Option.isSome_iff_exists.1 shape.1.1.1.1
  exact ⟨started, same, open'.dispatched started same⟩

/-- The fields a closing builder hands to the constructor. -/
def IdempotencyReservationRecord.closed (r : IdempotencyReservationRecord)
    (state : ReservationState) (t : ℤ) (kind : ReservationEvidenceKind) (evidence : Digest)
    (outcome : Option Digest) : ReservationFields :=
  { r.successor state t with
    dispatchStartedAt := r.dispatchStartedAt
    evidenceKind := some kind
    evidenceDigest := some evidence
    terminalOutcomeDigest := outcome }

variable {kind : ReservationEvidenceKind} {evidence : Digest}

/-- **A closing builder succeeds** if the shape of the new state does. -/
theorem closed_check {state : ReservationState} {outcome : Option Digest}
    (open' : Unresolved r t) (least : state.minimumRevision ≤ 3)
    (evidenceFormed : wellFormedDigest evidence = true)
    (outcomeFormed : outcome.all wellFormedDigest = true)
    (shape : validateStateShape (r.closed state t kind evidence outcome) = .ok ()) :
    (r.closed state t kind evidence outcome).check = .ok () := by
  have valid := r.valid
  simp only [ReservationFields.check, check_bind_eq_ok, validate_cons_eq_ok, decide_eq_true_eq]
    at valid
  obtain ⟨⟨-, owner, -, lease, acquired, changed, dispatched, -⟩, -, revision, -⟩ := valid
  have least' : 2 ≤ r.state.minimumRevision := by
    rcases open'.state with same | same
    · rw [same]
      decide
    · rw [same]
      decide
  simp only [ReservationFields.check, check_bind_eq_ok, validate_cons_eq_ok, decide_eq_true_eq,
    validate_nil, and_true]
  refine ⟨⟨?_, ?_, rfl, lease, acquired, ?_, dispatched, evidenceFormed, outcomeFormed⟩, shape, ?_⟩
  · show 1 ≤ r.revision + 1
    omega
  · show wellFormedDigest r.identity.acquisitionReceipt.ownerTokenDigest = true
    rw [← r.sound.owner]
    exact owner
  · show r.reservedAt ≤ t
    have later := open'.changed
    omega
  · show state.minimumRevision ≤ r.revision + 1
    omega

/-- What a closing builder returns. -/
structure ClosedAs (r result : IdempotencyReservationRecord) (state : ReservationState)
    (t : ℤ) : Prop where
  accepted : validateTransition r result = .ok ()
  state : result.state = state
  changed : result.stateChangedAt = t
  dispatched : result.dispatchStartedAt = r.dispatchStartedAt
  identity : result.identity = r.identity

theorem closedAs_of {result : IdempotencyReservationRecord} {state : ReservationState}
    {outcome : Option Digest}
    (accepted : AcceptedSuccessor r result)
    (same : result.toReservationFields = r.closed state t kind evidence outcome) :
    ClosedAs r result state t :=
  ⟨accepted.transition, congrArg (·.state) same, congrArg (·.stateChangedAt) same,
    congrArg (·.dispatchStartedAt) same, congrArg (·.identity) same⟩

/-- **Completion succeeds** for an unresolved attempt. -/
theorem completeWith_total {outcome : Digest} {name : String} (open' : Unresolved r t)
    (kinds : kind = .sinkTerminalOutcome ∨ kind = .irrevocableNonAcceptance ∨
      kind = .independentEffectOutcome)
    (outcomeFormed : wellFormedDigest outcome = true)
    (evidenceFormed : wellFormedDigest evidence = true) :
    ∃ result, completeWith r (.aware t) outcome kind name evidence = .ok result ∧
      ClosedAs r result .terminal t := by
  obtain ⟨started, dispatched, before⟩ := open'.started
  have shape : validateStateShape (r.closed .terminal t kind evidence (some outcome)) = .ok () := by
    show validate _ = .ok ()
    simp only [validate_cons_eq_ok, validate_nil, IdempotencyReservationRecord.closed,
      IdempotencyReservationRecord.successor, reservationFields, dispatched, Option.any_some,
      Option.isSome_some, Bool.and_true, Bool.and_eq_true, Bool.or_eq_true, decide_eq_true_eq,
      Option.some.injEq, and_true]
    exact ⟨before, or_assoc.2 kinds⟩
  have valid := closed_check open' (by decide) evidenceFormed
    (show (some outcome).all wellFormedDigest = true from outcomeFormed) shape
  have built : completeWith r (.aware t) outcome kind name evidence =
      .ok { r.closed .terminal t kind evidence (some outcome) with valid } := by
    have time : reservationUtc "completed_at" (.aware t) = .ok t := rfl
    show (reservationUtc "completed_at" (.aware t) >>= _) = _
    rw [time, bind_eq_ok]
    refine ⟨t, rfl, ?_⟩
    rw [check_bind_eq_ok]
    refine ⟨?_, buildReservation_of_check valid⟩
    simp only [validate_cons_eq_ok, validate_nil, reservationDigest, Bool.or_eq_true,
      Bool.and_eq_true, decide_eq_true_eq, dispatched, Option.any_some, and_true]
    exact ⟨open'.state, ⟨before, open'.changed⟩, outcomeFormed, evidenceFormed⟩
  exact ⟨_, built, closedAs_of (completeWith_accepted built) rfl⟩

theorem completeReservation_total
    {outcome status : Digest} (irrevocable : Bool) (open' : Unresolved r t)
    (outcomeFormed : wellFormedDigest outcome = true)
    (statusFormed : wellFormedDigest status = true) :
    ∃ result, completeReservation r (.aware t) outcome status irrevocable = .ok result ∧
      ClosedAs r result .terminal t := by
  cases irrevocable with
  | true => exact completeWith_total open' (.inr (.inl rfl)) outcomeFormed statusFormed
  | false => exact completeWith_total open' (.inl rfl) outcomeFormed statusFormed

/-- **Quarantine succeeds** for an attempt in flight. -/
theorem quarantineReservation_total (open' : Unresolved r t) (inFlight : r.state = .inFlight)
    (evidenceFormed : wellFormedDigest evidence = true) :
    ∃ result, quarantineReservation r (.aware t) evidence = .ok result ∧
      ClosedAs r result .outcomeUnknown t := by
  obtain ⟨started, dispatched, before⟩ := open'.started
  have shape : validateStateShape
      (r.closed .outcomeUnknown t .continuityUnproven evidence none) = .ok () := by
    show validate _ = .ok ()
    simp [IdempotencyReservationRecord.closed, IdempotencyReservationRecord.successor,
      reservationFields, dispatched, before]
  have valid := closed_check open' (by decide) evidenceFormed rfl shape
  have built : quarantineReservation r (.aware t) evidence =
      .ok { r.closed .outcomeUnknown t .continuityUnproven evidence none with valid } := by
    have time : reservationUtc "quarantined_at" (.aware t) = .ok t := rfl
    show (reservationUtc "quarantined_at" (.aware t) >>= _) = _
    rw [time, bind_eq_ok]
    refine ⟨t, rfl, ?_⟩
    rw [check_bind_eq_ok]
    refine ⟨?_, buildReservation_of_check valid⟩
    simp only [validate_cons_eq_ok, validate_nil, reservationDigest, decide_eq_true_eq,
      dispatched, Option.any_some, and_true]
    exact ⟨inFlight, before, evidenceFormed⟩
  exact ⟨_, built, closedAs_of (quarantineReservation_accepted built) rfl⟩

theorem buildFence_of_check {fields : FenceFields} (valid : fields.check = .ok ()) :
    buildFence fields = .ok { fields with valid } := by
  unfold buildFence
  split
  · rfl
  rename_i message failed
  rw [valid] at failed
  cases failed

theorem released_evidence {r : TargetDispatchFenceRecord}
    (state : r.state = .releasePending ∨ r.state = .quarantined) :
    r.hasPrerequisites = true := by
  have shape := r.shape
  simp only [FenceFields.validateShape, check_bind_eq_ok] at shape
  rcases state with same | same
  · simp only [same, validate_cons_eq_ok, Bool.and_eq_true] at shape
    exact shape.2.1.1.1
  · simp only [same, validate_cons_eq_ok, Bool.and_eq_true] at shape
    exact shape.2.1.1

/-- The state of a fence after its release. -/
def closedState (quarantined : Bool) : TargetDispatchFenceState :=
  if quarantined then .quarantined else .resolved

/-- The fields of a fence after its release. -/
def closedFence (r : TargetDispatchFenceRecord) (quarantined : Bool) (resolution : Digest)
    (t : ℤ) : FenceFields :=
  nextFields r (closedState quarantined) t { resolutionEvidenceDigest := some resolution }

theorem closedFence_check {r : TargetDispatchFenceRecord} (quarantined : Bool)
    {resolution : Digest} (prerequisites : r.hasPrerequisites = true)
    (changed : r.stateChangedAt ≤ t) (formed : wellFormedDigest resolution = true) :
    (closedFence r quarantined resolution t).check = .ok () := by
  have valid := r.valid
  simp only [FenceFields.check, check_bind_eq_ok, validate_cons_eq_ok, decide_eq_true_eq,
    FenceFields.digestField] at valid
  obtain ⟨⟨positive, -, -, -, audit, bundle, -, -, acquired, -⟩, -⟩ := valid
  obtain ⟨hasAudit, hasBundle⟩ := Bool.and_eq_true_iff.1 prerequisites
  have shape : (closedFence r quarantined resolution t).validateShape = .ok () := by
    rw [FenceFields.validateShape, check_bind_eq_ok, validate_cons_eq_ok]
    refine ⟨⟨?_, rfl⟩, ?_⟩
    · show decide (r.auditAppendReceiptDigest.isNone = r.safeguardBundleDigest.isNone) = true
      rw [Option.isNone_eq_false_iff.2 hasAudit, Option.isNone_eq_false_iff.2 hasBundle]
      rfl
    · have both : (closedFence r quarantined resolution t).hasPrerequisites = true := prerequisites
      cases quarantined with
      | true =>
        show validate [((closedFence r true resolution t).hasPrerequisites && true, _)] = .ok ()
        rw [both]
        rfl
      | false =>
        show validate [((closedFence r false resolution t).hasPrerequisites && true, _)] = .ok ()
        rw [both]
        rfl
  simp only [FenceFields.check, check_bind_eq_ok, validate_cons_eq_ok, validate_nil,
    decide_eq_true_eq, Bool.or_eq_true, FenceFields.digestField, and_true]
  refine ⟨⟨?_, .inl ?_, .inr rfl, rfl, audit, bundle, rfl, formed, ?_⟩, shape⟩
  · show 1 ≤ r.revision + 1
    omega
  · show r.revision + 1 ≠ 1
    omega
  · show r.identity.acquisitionAcquiredAt ≤ t
    omega

/-- **A fence closes** after its release, and a quarantined one on fresh evidence. -/
theorem closeAfterRelease_total {r : TargetDispatchFenceRecord} (quarantined : Bool)
    (resolution : Digest) (changed : r.stateChangedAt ≤ t)
    (formed : wellFormedDigest resolution = true)
    (state : r.state = .releasePending ∨
      r.state = .quarantined ∧ quarantined = false ∧ r.resolutionEvidenceDigest ≠ some resolution) :
    ∃ result, closeAfterRelease r quarantined resolution (.aware t) = .ok result ∧
      result.toFenceFields = closedFence r quarantined resolution t := by
  have prerequisites := released_evidence (state.imp_right (·.1))
  have valid := closedFence_check quarantined prerequisites changed formed
  refine ⟨{ closedFence r quarantined resolution t with valid }, ?_, rfl⟩
  show (validate _ >>= _) = _
  rw [check_bind_eq_ok]
  constructor
  · simp only [validate_cons_eq_ok, validate_nil, fenceDigest, Bool.or_eq_true,
      Bool.not_eq_true', Bool.and_eq_false_iff, decide_eq_true_eq, decide_eq_false_iff_not, and_true]
    rcases state with pending | ⟨held, resolves, fresh⟩
    · have notHeld : r.state ≠ .quarantined := by
        rw [pending]
        decide
      exact ⟨.inl pending, .inl notHeld, formed, .inl notHeld⟩
    · exact ⟨.inr held, .inr resolves, formed, .inr (Ne.symm fresh)⟩
  · have time : fenceUtc "changed_at" (.aware t) = .ok t := rfl
    show (fenceUtc "changed_at" (.aware t) >>= _) = _
    rw [time, bind_eq_ok]
    refine ⟨t, rfl, ?_⟩
    rw [check_bind_eq_ok, validate_cons_eq_ok]
    exact ⟨⟨decide_eq_true changed, rfl⟩, buildFence_of_check valid⟩

end Fdai.Core
