import Fdai.Executor.TargetDispatchFence
import Fdai.Sequences.Chain

/-!
# Chains of fence records

The history of one target: a first record, then records that the validator accepts one after
the other.

* `fenceStep_cases` — a step begins the next generation, or it is a step within one.
* `within_evidence`, `after_release` — what a step within a generation does to the evidence.
* `FenceSerialised` — what the histories are for: generations one after the other, each with
  the evidence it was prepared with.
* `FenceCall` — the builders with their arguments.
* `target_fence_serialises` — every accepted history is serialised, and every record that a
  builder returns is accepted.
-/

namespace Fdai.Core

open Fdai.Providers (Digest)
open Fdai.Sequences

/-- The validator accepts one record after another. -/
def FenceAccepts (prior current : TargetDispatchFenceRecord) : Prop :=
  validateFenceTransition prior current = .ok ()

instance (prior current : TargetDispatchFenceRecord) : Decidable (FenceAccepts prior current) :=
  inferInstanceAs (Decidable (_ = _))

/-- The first record of a target. -/
structure FenceInitial (r : TargetDispatchFenceRecord) : Prop where
  revision : r.revision = 1
  prior : r.priorRecordDigest = none
  state : r.state = .preparing
  generation : r.generation = 1

structure FenceChain (chain : List TargetDispatchFenceRecord) : Prop where
  first : ∀ r, chain.head? = some r → FenceInitial r
  accepted : chain.IsChain FenceAccepts

/-- A record satisfies the shape of its state. -/
theorem TargetDispatchFenceRecord.shape (r : TargetDispatchFenceRecord) :
    r.toFenceFields.validateShape = .ok () := by
  have valid := r.valid
  simp only [FenceFields.check, check_bind_eq_ok] at valid
  exact valid.2

/-- A record is no older than its acquisition. -/
theorem FenceFields.acquired_of_check {fields : FenceFields} (valid : fields.check = .ok ()) :
    fields.identity.acquisitionAcquiredAt ≤ fields.stateChangedAt := by
  simp only [FenceFields.check, check_bind_eq_ok, validate_cons_eq_ok, decide_eq_true_eq] at valid
  exact valid.1.2.2.2.2.2.2.2.2.1

/-- A generation in preparation has no prepared evidence. -/
theorem preparing_shape {r : FenceFields} (shape : r.validateShape = .ok ())
    (preparing : r.state = .preparing) :
    r.auditAppendReceiptDigest = none ∧ r.safeguardBundleDigest = none := by
  simp only [FenceFields.validateShape, preparing, check_bind_eq_ok, validate_cons_eq_ok,
    FenceFields.hasPrerequisites, Bool.and_eq_true, Bool.not_eq_true', Bool.and_eq_false_iff,
    decide_eq_true_eq] at shape
  obtain ⟨⟨together, -⟩, ⟨⟨missing, -⟩, -⟩, -⟩ := shape
  rcases missing with noAudit | noBundle
  · rw [Option.isSome_eq_false_iff] at noAudit
    rw [noAudit] at together
    exact ⟨Option.isNone_iff_eq_none.1 noAudit, Option.isNone_iff_eq_none.1 together.symm⟩
  rw [Option.isSome_eq_false_iff] at noBundle
  rw [noBundle] at together
  exact ⟨Option.isNone_iff_eq_none.1 together, Option.isNone_iff_eq_none.1 noBundle⟩

theorem buildFence_ok {fields : FenceFields} {r : TargetDispatchFenceRecord}
    (built : buildFence fields = .ok r) : r.toFenceFields = fields := by
  unfold buildFence at built
  split at built
  · obtain rfl := Except.ok.inj built
    rfl
  · cases built

/-! ## Steps -/

/-- A step to the next generation. -/
structure AdvancesGeneration (prior current : TargetDispatchFenceRecord) : Prop where
  resolved : prior.state = .resolved
  preparing : current.state = .preparing
  target : current.identity.targetDigest = prior.identity.targetDigest
  generation : current.generation = prior.generation + 1

/-- A step within a generation. -/
structure WithinGeneration (prior current : TargetDispatchFenceRecord) : Prop where
  identity : current.identity = prior.identity
  edge : current.state ∈ prior.state.legalEdges
  evidence : validateTransitionEvidence prior.toFenceFields current.toFenceFields = .ok ()

variable {prior current : TargetDispatchFenceRecord}

/-- **What a step does.** -/
theorem fenceStep_cases (step : FenceAccepts prior current) :
    AdvancesGeneration prior current ∨ WithinGeneration prior current := by
  unfold FenceAccepts validateFenceTransition at step
  split at step
  · rename_i states
    simp only [validate_cons_eq_ok, Bool.and_eq_true, decide_eq_true_eq] at step states
    exact .inl ⟨states.1, states.2, step.1.1.1.1.1.2, step.1.1.1.1.2⟩
  · simp only [check_bind_eq_ok, validate_cons_eq_ok, Bool.and_eq_true, decide_eq_true_eq] at step
    exact .inr ⟨step.1.1.1.1.1, step.1.2.1, step.2⟩

/-- The prepared evidence of two records is the same. -/
def Retains (prior current : FenceFields) : Prop :=
  current.auditAppendReceiptDigest = prior.auditAppendReceiptDigest ∧
    current.safeguardBundleDigest = prior.safeguardBundleDigest

/-- A generation closed on evidence that nothing was dispatched. -/
structure ClosedUndispatched (r : FenceFields) : Prop where
  resolved : r.state = .resolved
  noDispatch : r.noDispatchEvidenceDigest.isSome = true
  audit : r.auditAppendReceiptDigest = none
  bundle : r.safeguardBundleDigest = none

/-- The step closes the generation before its release. -/
def ClosesEarly (prior current : FenceFields) : Prop :=
  prior.state.beforeRelease = true ∧ current.state = .resolved

theorem evidence_closed {prior current : FenceFields}
    (evidence : validateTransitionEvidence prior current = .ok ())
    (closes : ClosesEarly prior current) : ClosedUndispatched current := by
  simp only [validateTransitionEvidence, closes.1, closes.2, Bool.true_and, decide_true,
    ↓reduceIte, validate_cons_eq_ok, Bool.and_eq_true, Option.isNone_iff_eq_none] at evidence
  exact ⟨closes.2, evidence.1.1.1.1, evidence.1.1.1.2, evidence.1.1.2⟩

/-- What it asks of every other step of a generation that is prepared. -/
theorem evidence_open {prior current : FenceFields}
    (evidence : validateTransitionEvidence prior current = .ok ())
    (isOpen : ¬ ClosesEarly prior current) (later : current.state ≠ .prepared)
    (prepared : prior.state ≠ .preparing) (unresolved : prior.state ≠ .resolved) :
    Retains prior current ∧ current.noDispatchEvidenceDigest = none ∧
      (prior.state = .quarantined → current.state = .resolved →
        current.resolutionEvidenceDigest ≠ prior.resolutionEvidenceDigest) ∧
      (current.state = .resolved ∨ current.state = .quarantined →
        current.resolutionEvidenceDigest.isSome = true) := by
  unfold validateTransitionEvidence at evidence
  split at evidence
  · rename_i closes
    simp only [Bool.and_eq_true, decide_eq_true_eq] at closes
    exact absurd closes isOpen
  split at evidence
  · -- Evidence that nothing was dispatched belongs to an early closure.
    simp only [validate_cons_eq_ok, Bool.and_eq_true, Bool.or_eq_true, decide_eq_true_eq]
      at evidence
    obtain ⟨⟨⟨⟨⟨resolved, from'⟩, -⟩, -⟩, -⟩, -⟩ := evidence
    have early : prior.state = .prepared := from'.resolve_left prepared
    exact absurd ⟨by rw [early]; rfl, resolved⟩ isOpen
  · rename_i undispatched
    simp only [check_bind_eq_ok, validate_cons_eq_ok, Bool.or_eq_true, Bool.and_eq_true,
      decide_eq_true_eq, prepared, unresolved, false_or] at evidence
    obtain ⟨⟨retained, fresh, -⟩, terminal⟩ := evidence
    refine ⟨retained, by simpa using undispatched, fun quarantined resolved same => ?_,
      fun closed => ?_⟩
    · simp [quarantined, resolved, same] at fresh
    · rw [if_neg (by rcases closed with state | state <;> simp [state])] at terminal
      rcases closed with state | state
      · simpa [state] using terminal
      · simpa [state] using terminal

theorem edge_not_prepared (step : WithinGeneration prior current)
    (prepared : prior.state ≠ .preparing) :
    current.state ≠ .prepared ∧ prior.state ≠ .resolved := by
  have edge := step.edge
  cases state : prior.state with
  | preparing => exact absurd state prepared
  | resolved => simp [state, TargetDispatchFenceState.legalEdges] at edge
  | _ =>
    refine ⟨fun again => ?_, by simp⟩
    simp [state, again, TargetDispatchFenceState.legalEdges] at edge

/-- **Prepared evidence.** A step keeps it, or closes the generation before its release on
evidence that nothing was dispatched. -/
theorem within_evidence (step : WithinGeneration prior current)
    (prepared : prior.state ≠ .preparing) :
    Retains prior.toFenceFields current.toFenceFields ∨
      ClosedUndispatched current.toFenceFields := by
  by_cases closes : ClosesEarly prior.toFenceFields current.toFenceFields
  · exact .inr (evidence_closed step.evidence closes)
  · obtain ⟨later, unresolved⟩ := edge_not_prepared step prepared
    exact .inl (evidence_open step.evidence closes later prepared unresolved).1

/-- A generation is released: it waits for its resolution, or has it. -/
inductive Released (r : FenceFields) : Prop where
  | pending (state : r.state = .releasePending)
  | quarantined (state : r.state = .quarantined)
  | resolved (state : r.state = .resolved) (dispatched : r.noDispatchEvidenceDigest = none)

/-- A generation is closed after its release. -/
structure ClosedReleased (r : FenceFields) : Prop where
  state : r.state = .resolved ∨ r.state = .quarantined
  dispatched : r.noDispatchEvidenceDigest = none
  resolution : r.resolutionEvidenceDigest.isSome = true

theorem ClosedReleased.released {r : FenceFields} (closed : ClosedReleased r) : Released r := by
  rcases closed.state with resolved | quarantined
  · exact .resolved resolved closed.dispatched
  · exact .quarantined quarantined

/-- **After the release** a generation is closed with its prepared evidence retained and
evidence of its resolution; out of quarantine only with new evidence. -/
theorem after_release (step : WithinGeneration prior current)
    (released : Released prior.toFenceFields) :
    Retains prior.toFenceFields current.toFenceFields ∧ ClosedReleased current.toFenceFields ∧
      (prior.state = .quarantined → current.state = .resolved ∧
        current.resolutionEvidenceDigest ≠ prior.resolutionEvidenceDigest) := by
  have edge := step.edge
  have isOpen : ¬ ClosesEarly prior.toFenceFields current.toFenceFields := by
    rintro ⟨early, -⟩
    rcases released with state | state | ⟨state, -⟩ <;>
      simp [state, TargetDispatchFenceState.beforeRelease] at early
  have prepared : prior.state ≠ .preparing := by
    rcases released with state | state | ⟨state, -⟩ <;> simp [state]
  obtain ⟨later, unresolved⟩ := edge_not_prepared step prepared
  obtain ⟨retained, dispatched, fresh, resolution⟩ :=
    evidence_open step.evidence isOpen later prepared unresolved
  have closed : current.state = .resolved ∨ current.state = .quarantined := by
    rcases released with state | state | ⟨state, -⟩
    · simpa [state, TargetDispatchFenceState.legalEdges] using edge
    · exact .inl (by simpa [state, TargetDispatchFenceState.legalEdges] using edge)
    · exact absurd state unresolved
  refine ⟨retained, ⟨closed, dispatched, resolution closed⟩, fun quarantined => ?_⟩
  have resolved : current.state = .resolved := by
    simpa [quarantined, TargetDispatchFenceState.legalEdges] using edge
  exact ⟨resolved, fresh quarantined resolved⟩

/-! ## Histories -/

/-- How two records of one history are related. -/
structure Follows (prior current : TargetDispatchFenceRecord) : Prop where
  generation : prior.generation ≤ current.generation
  /-- A resolved generation is over. -/
  finished : prior.state = .resolved → prior.generation < current.generation
  /-- Prepared evidence is not rewritten. -/
  evidence : prior.generation = current.generation → prior.hasPrerequisites = true →
    Retains prior.toFenceFields current.toFenceFields ∨ ClosedUndispatched current.toFenceFields
  /-- A released generation stays so, with its evidence. -/
  released : prior.generation = current.generation → Released prior.toFenceFields →
    Retains prior.toFenceFields current.toFenceFields ∧ ClosedReleased current.toFenceFields

theorem generation_within (step : WithinGeneration prior current) :
    current.generation = prior.generation := by
  rw [FenceFields.generation, FenceFields.generation, step.identity]

/-- **Step.** -/
theorem follows_of_step (step : FenceAccepts prior current) : Follows prior current := by
  rcases fenceStep_cases step with advance | within
  · have next := advance.generation
    refine ⟨by omega, fun _ => by omega, fun same => ?_, fun same => ?_⟩
    · omega
    · omega
  have same := generation_within within
  refine ⟨same.ge, fun resolved => ?_, fun _ prepared => ?_, fun _ released => ?_⟩
  · have edge := within.edge
    simp [resolved, TargetDispatchFenceState.legalEdges] at edge
  · refine within_evidence within fun preparing => ?_
    obtain ⟨noAudit, -⟩ := preparing_shape prior.shape preparing
    simp [FenceFields.hasPrerequisites, noAudit] at prepared
  · obtain ⟨retained, closed, -⟩ := after_release within released
    exact ⟨retained, closed⟩

/-- Evidence that is retained is there. -/
private theorem Retains.hasPrerequisites {prior current : FenceFields}
    (retained : Retains prior current) (prepared : prior.hasPrerequisites = true) :
    current.hasPrerequisites = true := by
  rw [FenceFields.hasPrerequisites, retained.1, retained.2]
  exact prepared

private theorem Retains.trans {a b c : FenceFields} (ab : Retains a b) (bc : Retains b c) :
    Retains a c :=
  ⟨bc.1.trans ab.1, bc.2.trans ab.2⟩

/-- **Run.** The relation is transitive, so it holds along a history. -/
theorem Follows.trans {a b c : TargetDispatchFenceRecord} (ab : Follows a b)
    (bc : Follows b c) : Follows a c := by
  refine ⟨ab.generation.trans bc.generation, fun resolved => ?_, fun same prepared => ?_,
    fun same released => ?_⟩
  · exact (ab.finished resolved).trans_le bc.generation
  · have sameAB : a.generation = b.generation := by
      have := ab.generation
      have := bc.generation
      omega
    have sameBC : b.generation = c.generation := sameAB.symm.trans same
    rcases ab.evidence sameAB prepared with retained | closed
    · rcases bc.evidence sameBC (retained.hasPrerequisites prepared) with again | closed
      · exact .inl (retained.trans again)
      · exact .inr closed
    · exact absurd sameBC (bc.finished closed.resolved).ne
  · have sameAB : a.generation = b.generation := by
      have := ab.generation
      have := bc.generation
      omega
    have sameBC : b.generation = c.generation := sameAB.symm.trans same
    obtain ⟨retained, closed⟩ := ab.released sameAB released
    obtain ⟨again, closed'⟩ := bc.released sameBC closed.released
    exact ⟨retained.trans again, closed'⟩

structure FenceSerialised (chain : List TargetDispatchFenceRecord) : Prop where
  /-- A new generation begins in preparation, after the previous one is resolved. -/
  advance : chain.IsChain fun prior current =>
    current.state = .preparing ∨ current.generation ≠ prior.generation →
      prior.state = .resolved ∧ current.state = .preparing ∧
        current.generation = prior.generation + 1
  /-- Prepared evidence is never rewritten within a generation; it is dropped only by a
  closure on evidence that nothing was dispatched. -/
  evidence : chain.Pairwise fun earlier later =>
    later.generation = earlier.generation → earlier.hasPrerequisites = true →
      Retains earlier.toFenceFields later.toFenceFields ∨ ClosedUndispatched later.toFenceFields
  /-- A generation that reached `RELEASE_PENDING` is closed only with its prepared evidence
  and evidence of its resolution. -/
  released : chain.Pairwise fun earlier later =>
    later.generation = earlier.generation → earlier.state = .releasePending →
      Retains earlier.toFenceFields later.toFenceFields ∧ ClosedReleased later.toFenceFields
  /-- Out of quarantine only with new evidence. -/
  quarantine : chain.IsChain fun prior current =>
    prior.state = .quarantined → current.state = .resolved ∧
      current.resolutionEvidenceDigest.isSome = true ∧
        current.resolutionEvidenceDigest ≠ prior.resolutionEvidenceDigest

/-- A step into preparation, or to another generation, begins the next one. -/
theorem advance_of_step (step : FenceAccepts prior current)
    (begins : current.state = .preparing ∨ current.generation ≠ prior.generation) :
    prior.state = .resolved ∧ current.state = .preparing ∧
      current.generation = prior.generation + 1 := by
  rcases fenceStep_cases step with advance | within
  · exact ⟨advance.resolved, advance.preparing, advance.generation⟩
  rcases begins with preparing | other
  · have edge := within.edge
    rw [preparing] at edge
    cases state : prior.state <;> simp [state, TargetDispatchFenceState.legalEdges] at edge
  · exact absurd (generation_within within) other

theorem quarantine_of_step (step : FenceAccepts prior current)
    (quarantined : prior.state = .quarantined) :
    current.state = .resolved ∧ current.resolutionEvidenceDigest.isSome = true ∧
      current.resolutionEvidenceDigest ≠ prior.resolutionEvidenceDigest := by
  rcases fenceStep_cases step with advance | within
  · have resolved := advance.resolved
    simp [quarantined] at resolved
  · obtain ⟨-, closed, leaves⟩ := after_release within (.quarantined quarantined)
    exact ⟨(leaves quarantined).1, closed.resolution, (leaves quarantined).2⟩

/-- **Every accepted history is serialised.** -/
theorem fenceChain_serialised {chain : List TargetDispatchFenceRecord}
    (isChain : FenceChain chain) : FenceSerialised chain := by
  have follows : chain.Pairwise Follows :=
    pairwise_of_step (fun a b c => Follows.trans) (fun a b => follows_of_step) isChain.accepted
  refine ⟨?_, ?_, ?_, ?_⟩
  · exact isChain.accepted.imp fun a b step => advance_of_step step
  · exact follows.imp fun related same => related.evidence same.symm
  · exact follows.imp fun related same pending => related.released same.symm (.pending pending)
  · exact isChain.accepted.imp fun a b step => quarantine_of_step step

/-! ## Builders -/

variable {r result : TargetDispatchFenceRecord}

/-- A time that is read as an instant. -/
theorem fenceUtc_bind_eq_ok {α : Type} {name : String} {value : Datetime}
    {f : ℤ → Except String α} {b : α} :
    (fenceUtc name value >>= f) = .ok b ↔
      ∃ instant, value.instant? = some instant ∧ f instant = .ok b := by
  rw [bind_eq_ok]
  unfold fenceUtc utc
  cases value.instant? with
  | none | some instant => simp

variable {changedAt : Datetime}

/-- **Within a generation.** What `_next_record` builds is accepted if the edge is legal
and the evidence is that of the edge. -/
theorem nextRecord_accepted {state : TargetDispatchFenceState}
    {e : NextEvidence} (built : nextRecord r state changedAt e = .ok result)
    (edge : state ∈ r.state.legalEdges)
    (evidence : ∀ t, validateTransitionEvidence r.toFenceFields (nextFields r state t e) =
      .ok ()) : FenceAccepts r result := by
  simp only [nextRecord, fenceUtc_bind_eq_ok, check_bind_eq_ok, validate_cons_eq_ok,
    decide_eq_true_eq] at built
  obtain ⟨normalizedAt, -, ⟨forward, -⟩, built⟩ := built
  have same := buildFence_ok built
  have within : ¬ (r.state = .resolved && result.state = .preparing) = true := by
    simp only [Bool.and_eq_true, decide_eq_true_eq, not_and]
    intro resolved
    simp [resolved, TargetDispatchFenceState.legalEdges] at edge
  rw [FenceAccepts, validateFenceTransition, if_neg within, check_bind_eq_ok]
  simp only [validate_cons_eq_ok, Bool.and_eq_true, decide_eq_true_eq, validate_nil, and_true, same]
  exact ⟨⟨⟨⟨⟨rfl, rfl⟩, rfl⟩, forward⟩, edge⟩, evidence normalizedAt⟩

/-- The step changes no evidence. -/
theorem evidence_unchanged {state : TargetDispatchFenceState} (t : ℤ)
    (isActive : state = .inFlight ∨ state = .releasePending) :
    validateTransitionEvidence r.toFenceFields (nextFields r state t {}) = .ok () := by
  rcases isActive with rfl | rfl
  · simp [validateTransitionEvidence, nextFields, check_bind_eq_ok]
  · simp [validateTransitionEvidence, nextFields, check_bind_eq_ok]

theorem attachPreparedEvidence_accepted {receipt : AuditIntentAppendReceipt} {bundle : Digest}
    (built : attachPreparedEvidence r receipt bundle changedAt = .ok result) :
    FenceAccepts r result := by
  simp only [attachPreparedEvidence, fenceUtc_bind_eq_ok, check_bind_eq_ok,
    validate_cons_eq_ok, decide_eq_true_eq] at built
  obtain ⟨⟨preparing, -, -⟩, normalizedAt, -, -, built⟩ := built
  obtain ⟨noAudit, noBundle⟩ := preparing_shape r.shape preparing
  refine nextRecord_accepted built ?_ fun t => ?_
  · rw [preparing]
    decide
  · simp [validateTransitionEvidence, nextFields, noAudit, noBundle]

theorem markInFlight_accepted
    (built : markInFlight r changedAt = .ok result) : FenceAccepts r result := by
  simp only [markInFlight, check_bind_eq_ok, validate_cons_eq_ok, decide_eq_true_eq] at built
  refine nextRecord_accepted built.2 ?_ fun t => evidence_unchanged t (.inl rfl)
  rw [built.1.1]
  decide

theorem markReleasePending_accepted
    (built : markReleasePending r changedAt = .ok result) : FenceAccepts r result := by
  simp only [markReleasePending, check_bind_eq_ok, validate_cons_eq_ok, decide_eq_true_eq] at built
  refine nextRecord_accepted built.2 ?_ fun t => evidence_unchanged t (.inr rfl)
  rw [built.1.1]
  decide

theorem resolveWithoutDispatch_accepted {digest : Digest}
    (built : resolveWithoutDispatch r digest changedAt = .ok result) :
    FenceAccepts r result := by
  simp only [resolveWithoutDispatch, check_bind_eq_ok, validate_cons_eq_ok] at built
  obtain ⟨⟨early, -⟩, built⟩ := built
  refine nextRecord_accepted built ?_ fun t => ?_
  · cases state : r.state <;>
      simp [state, TargetDispatchFenceState.beforeRelease] at early <;> decide
  · simp [validateTransitionEvidence, nextFields, early]

theorem closeAfterRelease_accepted {quarantined : Bool} {digest : Digest}
    (built : closeAfterRelease r quarantined digest changedAt = .ok result) :
    FenceAccepts r result := by
  simp only [closeAfterRelease, check_bind_eq_ok, validate_cons_eq_ok, Bool.or_eq_true,
    decide_eq_true_eq] at built
  obtain ⟨⟨from', once, -, fresh, -⟩, built⟩ := built
  refine nextRecord_accepted built ?_ fun t => ?_
  · rcases from' with state | state
    · rw [state]
      cases quarantined <;> decide
    have resolves : quarantined = false := by simpa [state] using once
    rw [state, resolves]
    decide
  · rcases from' with state | state
    · cases quarantined <;> simp [validateTransitionEvidence, nextFields, state, check_bind_eq_ok,
          TargetDispatchFenceState.beforeRelease]
    have resolves : quarantined = false := by simpa [state] using once
    have new : some digest ≠ r.resolutionEvidenceDigest := by simpa [state] using fresh
    simp [validateTransitionEvidence, nextFields, state, resolves, new, check_bind_eq_ok,
      TargetDispatchFenceState.beforeRelease]

theorem createPreparing_accepted {identity : TargetDispatchFenceIdentity}
    (built : createPreparing identity changedAt (some r) = .ok result) :
    FenceAccepts r result := by
  simp only [createPreparing, fenceUtc_bind_eq_ok, check_bind_eq_ok, validate_cons_eq_ok,
    Bool.and_eq_true, decide_eq_true_eq] at built
  obtain ⟨⟨resolved, target, generation, ⟨later, other⟩, -⟩, stateChangedAt, -, built⟩ := built
  have same := buildFence_ok built
  have acquired := FenceFields.acquired_of_check (same ▸ result.valid)
  rw [FenceAccepts, validateFenceTransition]
  simp only [same, resolved, decide_true, Bool.and_self, ↓reduceIte, validate_cons_eq_ok,
    Bool.and_eq_true, decide_eq_true_eq, validate_nil, and_true]
  refine ⟨⟨⟨⟨⟨trivial, target.symm⟩, generation⟩, later⟩, other⟩, ?_⟩
  exact Int.le_trans (Int.le_of_lt later) acquired

/-- The first record of a target. -/
theorem createPreparing_initial {identity : TargetDispatchFenceIdentity}
    (built : createPreparing identity changedAt none = .ok result) : FenceInitial result := by
  simp only [createPreparing, fenceUtc_bind_eq_ok, check_bind_eq_ok, validate_cons_eq_ok,
    decide_eq_true_eq] at built
  obtain ⟨⟨generation, -⟩, stateChangedAt, -, built⟩ := built
  have same := buildFence_ok built
  refine ⟨?_, ?_, ?_, ?_⟩
  · rw [same]
  · rw [same]
  · rw [same]
  · rw [FenceFields.generation, same]
    exact generation

/-- A builder with its arguments. -/
inductive FenceCall where
  | createPreparing (identity : TargetDispatchFenceIdentity) (changedAt : Datetime)
  | attachPreparedEvidence (receipt : AuditIntentAppendReceipt) (safeguardBundleDigest : Digest)
      (changedAt : Datetime)
  | markInFlight (changedAt : Datetime)
  | markReleasePending (changedAt : Datetime)
  | resolveWithoutDispatch (noDispatchEvidenceDigest : Digest) (changedAt : Datetime)
  | closeAfterRelease (quarantined : Bool) (resolutionEvidenceDigest : Digest)
      (changedAt : Datetime)

/-- What the call returns on a record. -/
def FenceCall.apply (r : TargetDispatchFenceRecord) :
    FenceCall → Except String TargetDispatchFenceRecord
  | .createPreparing identity changedAt => Core.createPreparing identity changedAt (some r)
  | .attachPreparedEvidence receipt bundle changedAt =>
    Core.attachPreparedEvidence r receipt bundle changedAt
  | .markInFlight changedAt => Core.markInFlight r changedAt
  | .markReleasePending changedAt => Core.markReleasePending r changedAt
  | .resolveWithoutDispatch digest changedAt => Core.resolveWithoutDispatch r digest changedAt
  | .closeAfterRelease quarantined digest changedAt =>
    Core.closeAfterRelease r quarantined digest changedAt

/-- **Builders and validator agree.** -/
theorem fenceCall_accepted {call : FenceCall} (built : call.apply r = .ok result) :
    FenceAccepts r result := by
  cases call with
  | createPreparing => exact createPreparing_accepted built
  | attachPreparedEvidence => exact attachPreparedEvidence_accepted built
  | markInFlight => exact markInFlight_accepted built
  | markReleasePending => exact markReleasePending_accepted built
  | resolveWithoutDispatch => exact resolveWithoutDispatch_accepted built
  | closeAfterRelease => exact closeAfterRelease_accepted built

/-- **The fence serialises the generations of a target.** Every accepted history is
serialised; every record that a builder returns begins a history or is accepted. -/
theorem target_fence_serialises : (∀ chain, FenceChain chain → FenceSerialised chain) ∧
      (∀ identity changedAt result,
        createPreparing identity changedAt none = .ok result → FenceInitial result) ∧
      ∀ r (call : FenceCall) result, call.apply r = .ok result → FenceAccepts r result :=
  ⟨fun _ => fenceChain_serialised, fun _ _ _ => createPreparing_initial,
    fun _ _ _ => fenceCall_accepted⟩

namespace TestTarget

/-- A generation of one machine. -/
def identity (generation : ℕ) (acquiredAt : ℤ) (generation_pos : 1 ≤ generation) :
    TargetDispatchFenceIdentity :=
  { targetDigest := .ofTexts ["vm-1"]
    reservationIdentityDigest := .ofFields [.text "reservation", .num generation]
    reservationAttempt := 1, acquisitionReceiptDigest := .ofTexts ["receipt"]
    acquisitionAcquiredAt := acquiredAt, continuityPolicyDigest := .ofTexts ["policy"]
    generation, clientCorrelationId := "corr", sinkIdempotencyKey := "sink"
    target_wellFormed := rfl, reservation_wellFormed := rfl, attempt_pos := Nat.one_pos
    acquisition_wellFormed := rfl, policy_wellFormed := rfl, generation_pos
    correlation_canonical := by decide +kernel
    key_canonical := by decide +kernel }

def preparing : TargetDispatchFenceRecord :=
  { identity := identity 1 0 Nat.one_pos, state := .preparing, revision := 1
    priorRecordDigest := none, stateChangedAt := 1, valid := by decide +kernel }

def prepared : TargetDispatchFenceRecord :=
  { nextFields preparing .prepared 2
      { auditAppendReceiptDigest := some (.ofTexts ["audit"])
        safeguardBundleDigest := some (.ofTexts ["bundle"]) } with
    valid := by decide +kernel }

def inFlight : TargetDispatchFenceRecord :=
  { nextFields prepared .inFlight 3 {} with valid := by decide +kernel }

def releasePending : TargetDispatchFenceRecord :=
  { nextFields inFlight .releasePending 4 {} with valid := by decide +kernel }

def quarantined : TargetDispatchFenceRecord :=
  { nextFields releasePending .quarantined 5
      { resolutionEvidenceDigest := some (.ofTexts ["unknown"]) } with
    valid := by decide +kernel }

def resolved : TargetDispatchFenceRecord :=
  { nextFields quarantined .resolved 6
      { resolutionEvidenceDigest := some (.ofTexts ["reconciled"]) } with
    valid := by decide +kernel }

def preparingAgain : TargetDispatchFenceRecord :=
  { identity := identity 2 7 Nat.two_pos, state := .preparing, revision := 7
    priorRecordDigest := some resolved.recordDigest, stateChangedAt := 8
    valid := by decide +kernel }

end TestTarget

open TestTarget in
theorem quarantine_then_next_generation : FenceSerialised
        [preparing, prepared, inFlight, releasePending, quarantined, resolved, preparingAgain] ∧
      FenceAccepts prepared inFlight := by
  have first : FenceAccepts preparing prepared := by decide +kernel
  have second : FenceAccepts inFlight releasePending := by decide +kernel
  have third : FenceAccepts releasePending quarantined := by decide +kernel
  have fourth : FenceAccepts quarantined resolved := by decide +kernel
  have fifth : FenceAccepts resolved preparingAgain := by decide +kernel
  have dispatched : FenceAccepts prepared inFlight :=
    target_fence_serialises.2.2 prepared (.markInFlight (.aware 3)) inFlight (by rfl)
  refine ⟨target_fence_serialises.1 _ ⟨?_, ?_⟩, dispatched⟩
  · rintro r ⟨⟩
    exact ⟨rfl, rfl, rfl, rfl⟩
  · simp [first, dispatched, second, third, fourth, fifth]

end Fdai.Core
