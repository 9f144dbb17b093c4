import Fdai.Workflow.Compensation

/-!
# What the recovery path leaves alone

Most of what a recovery does is evidence: it writes records of its own and asks the
outside. `Aside` are these calls; they leave the process, the hold and the release
lookups as they are. Each part of the path that makes no other calls has one lemma here.
-/

namespace Fdai.Core

open Fdai.Providers Fdai.Concurrency Program Discipline

/-- The records a recovery is decided by: the hold, and the lookups of its releases. -/
def Deciding : StateKey → Prop
  | .hold | .lookup _ _ _ => True
  | _ => False

/-- Calls that write neither the process nor a deciding record, and publish nothing. -/
def Aside : WorkflowOp → Prop
  | .writeStateIfAbsent key _ | .compareAndSetState key _ _ _ => ¬ Deciding key
  | .dispatchRecovery _ _ _ | .reconcileRecovery _ _ => True
  | .newToken _ => True
  | op => Quiet op

variable {key : StateKey}

section Answered

variable {ok : World → WorkflowOp → Prop} {w w' : World}

/-- **What a conditional first write can come to.** -/
theorem Answered.writeStateIfAbsent {value : StateRecord key} {a : Bool}
    (h : Answered ok w (.writeStateIfAbsent key value) a w') :
    (a = false ∧ w' = w ∧ (w.records.read key).isSome) ∨ (a = true ∧ w.records.read key = none ∧
        w' = { w with records := w.records.write key value }) := by
  obtain ⟨-, o, performed⟩ := h
  simp only [perform] at performed
  obtain ⟨rfl, rfl⟩ := Prod.mk.inj performed
  rcases StateStore.writeIfAbsent_cases (Prod.eta (w.records.writeIfAbsent key value)).symm with
    ⟨refused, same, stored⟩ | ⟨created, absent, wrote⟩
  · exact .inl ⟨refused, by rw [same], stored⟩
  · exact .inr ⟨created, absent, by rw [wrote]⟩

/-- **What a guarded write can come to.** -/
theorem Answered.compareAndSetGuarded {value : StateRecord key} {rev : ℕ}
    {approval : WorkflowApprovalSnapshot} {a : Bool}
    (h : Answered ok w (.compareAndSetGuarded key value rev approval) a w') :
    (a = false ∧ w' = w) ∨ (a = true ∧ (∃ stored, w.records.read key = some stored ∧
          recordRevision key stored = rev) ∧
        w' = { w with
          records := w.records.write key value
          log := w.log ++ [.holdReleased rev] }) := by
  obtain ⟨-, o, performed⟩ := h
  simp only [perform] at performed
  split at performed
  · obtain ⟨rfl, rfl⟩ := Prod.mk.inj performed
    rcases StateStore.compareAndSet_cases
        (Prod.eta (w.records.compareAndSet recordRevision key value rev)).symm with
      ⟨refused, same⟩ | ⟨committed, wrote, stored, found, current⟩
    · exact .inl ⟨refused, by rw [refused, same]; simp⟩
    · exact .inr ⟨committed, ⟨stored, found, current⟩, by rw [committed, wrote]; rfl⟩
  · obtain ⟨rfl, rfl⟩ := Prod.mk.inj performed
    exact .inl ⟨rfl, rfl⟩

/-- **Aside calls keep what decides.** -/
theorem Answered.aside {op : WorkflowOp} {a : WorkflowAns op} (h : Answered ok w op a w')
    (aside : Aside op) : w'.process = w.process ∧
      ∀ key, Deciding key → w'.records.read key = w.records.read key := by
  cases op with
  | writeStateIfAbsent key value =>
    rcases h.writeStateIfAbsent with ⟨-, rfl, -⟩ | ⟨-, -, rfl⟩
    · exact ⟨rfl, fun _ _ => rfl⟩
    refine ⟨rfl, fun other deciding => StateStore.read_write_ne _ ?_⟩
    rintro rfl
    exact aside deciding
  | compareAndSetState key value rev hand =>
    rcases h.compareAndSetState with ⟨-, rfl⟩ | ⟨-, -, rfl⟩
    · exact ⟨rfl, fun _ _ => rfl⟩
    refine ⟨rfl, fun other deciding => StateStore.read_write_ne _ ?_⟩
    rintro rfl
    exact aside deciding
  | dispatchRecovery =>
    obtain rfl := h.dispatchRecovery
    exact ⟨rfl, fun _ _ => rfl⟩
  | reconcileRecovery =>
    obtain rfl := h.reconcileRecovery
    exact ⟨rfl, fun _ _ => rfl⟩
  | newToken =>
    obtain ⟨-, rfl⟩ := h.newToken
    exact ⟨rfl, fun _ _ => rfl⟩
  | _ =>
    obtain ⟨process, -, records, -⟩ := h.quiet aside
    exact ⟨process, fun _ _ => by rw [records]⟩

end Answered

/-! ## Parts of the path that make aside calls only -/

variable {step : StepId}

section Only

variable {attempt : RecoveryAttemptIdentity} {claim : RecoveryPreDispatchClaim}
  {config : RecoveryCoordinatorConfig}

private theorem only_now : Only Aside Flow.now := only_invoke trivial

private theorem only_events : Only Aside (Flow.events .plain) := only_invoke trivial

private theorem only_read (key : StateKey) : Only Aside (Flow.read key) := only_invoke trivial

private theorem only_audit (kind : String) : Only Aside (Flow.audit kind) := only_invoke trivial

/-- A first write of a record that decides nothing. -/
private theorem only_writeIfAbsent (value : StateRecord key)
    (aside : ¬ Deciding key) : Only Aside (Flow.writeIfAbsent key value) := only_invoke aside

private theorem only_compareAndSet (value : StateRecord key) (rev : ℕ)
    (hand : Hand) (aside : ¬ Deciding key) :
    Only Aside (Flow.compareAndSet key value rev hand) := only_invoke aside

variable {reason : String}

theorem reject_only {attempt : Option RecoveryAttemptIdentity}
    {claim : Option RecoveryPreDispatchClaim} {disposition : RecoveryDisposition} :
    Only Aside (reject reason attempt claim disposition) :=
  only_bind (only_audit _) fun _ => trivial

theorem buildAttempt_only {proposal : Digest} {actionType : String} {params : Params}
    {holdRevision : ℕ} : Only Aside (buildAttempt proposal actionType params holdRevision) :=
  only_bind (only_invoke trivial) fun _ => trivial

theorem approvalEvidenceDigest_only {approval : WorkflowApprovalSnapshot} :
    Only Aside (approvalEvidenceDigest config approval attempt) := by
  unfold approvalEvidenceDigest
  split <;> trivial

theorem persistAttempt_only {evidence : Digest} : Only Aside (persistAttempt attempt evidence) := by
  refine only_bind (only_writeIfAbsent _ id) fun created => ?_
  split
  · trivial
  refine only_bind (only_read _) fun stored => ?_
  split
  · trivial
  · split <;> trivial

theorem resolveApproval_only : Only Aside (resolveApproval config attempt) := by
  unfold resolveApproval
  cases config.approvalReader with
  | false => trivial
  | true => exact only_invoke trivial

theorem requestApproval_only : Only Aside (requestApproval config attempt) := by
  unfold requestApproval
  split
  · trivial
  refine only_bind (only_invoke trivial) fun asked => ?_
  split
  · trivial
  · exact only_audit _

theorem resolveBundle_only : Only Aside (resolveBundle config attempt) := by
  unfold resolveBundle
  split
  · trivial
  · exact only_bind (only_invoke trivial) fun _ => trivial

theorem bindSafeguardEvidence_only : Only Aside (bindSafeguardEvidence config attempt) := by
  refine only_bind (only_read _) fun stored => ?_
  split
  · trivial
  refine only_bind resolveBundle_only fun bundle => ?_
  split
  · trivial
  refine only_bind only_now fun _ => ?_
  split
  · trivial
  refine only_bind (only_compareAndSet _ _ _ id) fun committed => ?_
  split
  · trivial
  · exact only_bind (only_read _) fun _ => trivial

theorem readCurrentClaim_only : Only Aside (readCurrentClaim attempt) :=
  only_bind (only_read _) fun _ => trivial

theorem assessAdmission_only {approval : WorkflowApprovalSnapshot} {holdRevision : ℕ} :
    Only Aside (assessAdmission approval holdRevision) :=
  only_bind only_now fun _ => only_invoke trivial

private theorem persistClaim_only {effectClaim : EffectCompletionClaim} :
    Only Aside (persistClaim attempt effectClaim) := by
  refine only_bind (only_read _) fun stored => ?_
  split
  · refine only_bind (only_writeIfAbsent _ id) fun created => ?_
    split
    · trivial
    · exact readCurrentClaim_only
  refine only_bind (only_compareAndSet _ _ _ id) fun committed => ?_
  split
  · trivial
  · exact readCurrentClaim_only

theorem claimEffect_only {holdRevision : ℕ} {bundle receipt : String}
    {approval : WorkflowApprovalSnapshot} :
    Only Aside (claimEffect config attempt holdRevision bundle receipt approval) := by
  unfold claimEffect
  split
  · trivial
  refine only_bind only_now fun _ => only_bind (only_invoke trivial) fun observed => ?_
  split
  · trivial
  · trivial
  split
  · exact only_bind (only_audit _) fun _ => trivial
  refine only_bind assessAdmission_only fun assessed => ?_
  split
  · trivial
  refine only_bind (only_bind (only_read _) fun _ => trivial) fun generation => ?_
  refine only_bind persistClaim_only fun persisted => ?_
  split <;> trivial

theorem claimOnce_only {holdRevision : ℕ} : Only Aside (claimOnce attempt holdRevision) := by
  refine only_bind (only_read _) fun stored => ?_
  split
  · trivial
  refine only_bind only_now fun claimedAt => only_bind (only_writeIfAbsent _ id) fun created => ?_
  split
  · trivial
  refine only_bind (only_read _) fun again => ?_
  split <;> trivial

variable {replica : ℕ}

private theorem acquireInFlight_only {first : Option ClaimRecord} (rounds : ℕ)
    (record : Option ClaimRecord) :
    Only Aside (acquireInFlight replica config attempt claim first rounds record) := by
  induction rounds generalizing record with
  | zero => trivial
  | succ rounds ih =>
    rcases record with _ | record
    · trivial
    unfold acquireInFlight
    split
    · trivial
    refine only_bind only_now fun now => ?_
    split
    · trivial
    refine only_bind (only_invoke trivial) fun owner => ?_
    refine only_bind (only_compareAndSet _ _ _ id) fun acquired => ?_
    split
    · trivial
    · exact only_bind (only_read _) fun again => ih again

private theorem recordDispatch_only {result : RecoveryDispatchResult} {owner : Token}
    {reread : Bool} (rounds : ℕ) :
    Only Aside (recordDispatch attempt claim result owner reread rounds) := by
  induction rounds with
  | zero => trivial
  | succ rounds ih =>
    refine only_bind (only_read _) fun stored => ?_
    split
    · trivial
    dsimp only
    split
    · trivial
    refine only_bind (only_compareAndSet _ _ _ id) fun committed => ?_
    split
    · trivial
    · exact ih

theorem dispatchOnce_only : Only Aside (dispatchOnce replica config attempt claim) := by
  have recorded (result : RecoveryDispatchResult) (owner : Token) (reread : Bool) :
      Only Aside (recordDispatch attempt claim result owner reread 3 >>= fun _ =>
        (pure result : Flow RecoveryDispatchResult)) :=
    only_bind (recordDispatch_only 3) fun _ => trivial
  refine only_bind (only_read _) fun stored => ?_
  dsimp only
  split
  · trivial
  split
  · exact only_bind only_now fun _ => trivial
  refine only_bind (acquireInFlight_only 3 _) fun lease => ?_
  split
  · exact only_bind only_now fun _ => trivial
  split
  · refine only_bind (only_bind (only_invoke trivial) fun answer => ?_) fun reconciled => ?_
    · split <;> trivial
    split
    · exact recorded _ _ _
    split
    · exact recorded _ _ _
    · exact only_bind only_now fun _ => recorded _ _ _
  · refine only_bind (only_bind (only_invoke trivial) fun answer => ?_) fun _ => recorded _ _ _
    split
    · trivial
    · exact only_bind only_now fun _ => trivial

theorem authorizeHoldScopedDispatch_only {holdRevision : ℕ} :
    Only Aside (authorizeHoldScopedDispatch attempt holdRevision) := by
  unfold authorizeHoldScopedDispatch
  split
  · trivial
  refine only_bind (only_read _) fun record => ?_
  split
  · trivial
  refine only_bind (only_writeIfAbsent _ id) fun created => ?_
  split
  · trivial
  · exact only_bind (only_read _) fun _ => trivial

private theorem replaceHoldScopedAuthorization_only {record : DispatchAuthorization}
    (rounds : ℕ) : Only Aside (replaceHoldScopedAuthorization attempt record rounds) := by
  induction rounds with
  | zero => trivial
  | succ rounds ih =>
    refine only_bind (only_read _) fun stored => ?_
    split
    · trivial
    dsimp only
    split
    · trivial
    refine only_bind (only_compareAndSet _ _ _ id) fun committed => ?_
    split
    · trivial
    · exact ih

theorem recordReleaseAuthorization_only {receipt : ReleaseReceipt} :
    Only Aside (recordReleaseAuthorization attempt receipt) := by
  refine only_bind (only_writeIfAbsent _ id) fun created => ?_
  split
  · trivial
  · exact replaceHoldScopedAuthorization_only 3

theorem releaseIntent_only {intent : ReleaseIntent} {admission : String} :
    Only Aside (releaseIntent intent admission) := by
  refine only_bind (only_writeIfAbsent _ id) fun created => ?_
  split
  · trivial
  · exact only_bind (only_read _) fun _ => trivial

variable {completion : RecoveryCompletion}

private theorem stageDeliveries_only
    (kinds : List DeliveryKind) : Only Aside (stageDeliveries completion kinds) := by
  induction kinds with
  | nil => trivial
  | cons kind rest ih => exact only_bind (only_writeIfAbsent _ id) fun _ => ih

theorem stageOutbox_only : Only Aside (stageOutbox completion) := stageDeliveries_only _

private theorem drainDelivery_only {kind : DeliveryKind} :
    Only Aside (drainDelivery completion kind) := by
  refine only_bind (only_read _) fun stored => ?_
  split
  · trivial
  dsimp only
  split
  · trivial
  have delivered (stored : OutboxRecord) : Only Aside (do
      let _ ← Flow.compareAndSet (.outbox completion.completionDigest kind)
        (deliveredRecord stored) stored.revision
      pure () : Flow Unit) :=
    only_bind (only_compareAndSet _ _ _ id) fun _ => trivial
  split
  · exact only_bind (only_audit _) fun _ => delivered _
  · exact delivered _

theorem drainOutbox_only : Only Aside (drainOutbox completion) :=
  only_bind drainDelivery_only fun _ => drainDelivery_only

theorem committedCompletionDigest_only : Only Aside committedCompletionDigest :=
  only_bind only_events fun _ => trivial

theorem healCommitted_only : Only Aside (healCommitted attempt) := by
  refine only_bind committedCompletionDigest_only fun committed => ?_
  split
  · trivial
  refine only_bind (only_invoke trivial) fun lookup => ?_
  refine only_bind readCurrentClaim_only fun effectClaim => ?_
  refine only_bind ?_ fun completion => ?_
  · refine only_bind only_events fun events => ?_
    dsimp only
    split
    · trivial
    · exact only_bind (only_invoke trivial) fun _ => trivial
  split
  · exact only_bind drainOutbox_only fun _ => trivial
  · exact only_bind only_pure fun _ => trivial

/-! ## Parts of a compensation that settle nothing -/

/-- The calls of a compensation that resumes, but for the ones that settle it: the
transitions to `compensated` and the lookups of a release. -/
inductive Working : WorkflowOp → Prop where
  | aside {op : WorkflowOp} (isAside : Aside op) : Working op
  | fail {revision : ℕ} {reason : String} {recordedAt : Instant} {seenHold : ℕ} :
      Working (.transition revision .failed ""
        (compensationFailedEvent revision reason recordedAt) seenHold)
  | dispatched {step : StepId} {actionType proposalRef : String} {recordedAt : Instant} :
      Working (.appendEvent
        (compensationDispatchedEvent step actionType proposalRef recordedAt) none)
  | dispatch {publication : Publication} (unclaimed : publication.claim = none) :
      Working (.dispatch publication)
  | verify {step : StepId} {proposalRef : String} {outcome : ActionOutcome}
      {receiptRef : String} : Working (.verifyOutcome step proposalRef outcome receiptRef)
  | issueFirst {reason : String} : Working (.writeStateIfAbsent .hold (issuedHold reason 1))
  | issueNext {reason : String} {revision : ℕ} :
      Working (.compareAndSetState .hold (issuedHold reason (revision + 1)) revision .plain)
  | release {record : HoldRecord} {receipt : ReleaseReceipt} {approval : WorkflowApprovalSnapshot} :
      Working (.compareAndSetGuarded .hold (releasedHold record receipt)
        receipt.releasedHoldRevision approval)

variable {α : Type}

/-- A part of the recovery path that makes aside calls only. -/
theorem working {p : Flow α} (only : Only Aside p) : Only Working p :=
  only.mono fun _ => .aside

private theorem issueHoldUnlocked_only (rounds : ℕ) :
    Only Working (issueHoldUnlocked reason rounds) := by
  induction rounds with
  | zero => trivial
  | succ rounds ih =>
    refine only_bind (working (only_read _)) fun stored => ?_
    split
    · refine only_bind (only_invoke .issueFirst) fun created => ?_
      split
      · trivial
      · exact ih
    dsimp only
    split
    · trivial
    refine only_bind (only_invoke .issueNext) fun committed => ?_
    split
    · trivial
    · exact ih

theorem failCompensation_only {snapshot : ProcessSnapshot} :
    Only Working (failCompensation snapshot reason) := by
  refine only_bind (issueHoldUnlocked_only 3) fun _ => ?_
  refine only_bind (working only_now) fun recordedAt => ?_
  refine only_bind (only_bind (only_invoke .fail) fun moved => ?_) fun failed => ?_
  · split <;> trivial
  · exact only_bind (working (only_audit _)) fun _ => trivial

theorem incomplete_only {snapshot : ProcessSnapshot} : Only Working (incomplete snapshot reason) :=
  only_bind failCompensation_only fun _ => trivial

variable {c : CompensationCoordinator}

theorem dispatchIntent_only {snapshot : ProcessSnapshot} {intent : CompensationIntent} :
    Only Working (dispatchIntent c snapshot intent) := by
  unfold dispatchIntent
  split
  · exact incomplete_only
  refine only_bind (only_invoke (.dispatch rfl)) fun answer => ?_
  split
  · exact incomplete_only
  split
  · exact incomplete_only
  refine only_bind (working only_now) fun recordedAt => ?_
  refine only_bind (only_bind (only_invoke .dispatched) fun appended => ?_) fun _ => trivial
  split <;> trivial

theorem dispatchIntents_only {events : List ProcessEvent} (intents : List ProcessEvent)
    (current : ProcessSnapshot) : Only Working (dispatchIntents c events current intents) := by
  induction intents generalizing current with
  | nil => trivial
  | cons event rest ih =>
    unfold dispatchIntents
    split
    · exact incomplete_only
    split
    · exact ih current
    refine only_bind dispatchIntent_only fun dispatched => ?_
    split
    · trivial
    · exact ih _

private theorem verifyCompensation_only {proposalRef : String}
    {outcome : ActionOutcome} {receiptRef : String} {bundle : Option String} :
    Only Working (verifyCompensation step proposalRef outcome receiptRef bundle) := by
  refine only_bind (only_invoke .verify) fun answer => ?_
  split <;> trivial

theorem checkIntent_only {kind : VerifierKind} {current : ProcessSnapshot}
    {proposalRef : String} {context : Context} :
    Only Working (checkIntent kind current step proposalRef context) := by
  cases kind with
  | resolver =>
    refine only_bind (working (only_invoke trivial)) fun answer => ?_
    split
    · trivial
    · trivial
    · exact verifyCompensation_only
  | verifier =>
    unfold checkIntent
    dsimp only
    split
    · trivial
    split
    · exact only_map incomplete_only
    split
    · exact only_map incomplete_only
    · exact verifyCompensation_only

theorem verifyIntents_only {events : List ProcessEvent} {context : Context}
    {current : ProcessSnapshot} (verified : VerifiedIntents) (intents : List ProcessEvent) :
    Only Working (verifyIntents c events context current verified intents) := by
  induction intents generalizing verified with
  | nil => trivial
  | cons event rest ih =>
    have stopped (reason : String) : Only Working (.inl <$> incomplete current reason :
        Flow (CompensationResult ⊕ VerifiedIntents)) := only_map incomplete_only
    unfold verifyIntents
    dsimp only
    split
    · exact stopped _
    split
    · exact stopped _
    refine only_bind (only_tryCatch checkIntent_only fun _ => trivial) fun check => ?_
    split
    · trivial
    · exact stopped _
    · exact stopped _
    · exact stopped _
    · exact stopped _
    · exact ih _

theorem releaseAdmitted_only {holdRevision : ℕ} {approval : WorkflowApprovalSnapshot}
    {digests : List String} {admission : String} :
    Only Working (releaseAdmitted attempt holdRevision approval digests admission) := by
  have authorized (receipt : ReleaseReceipt) : Only Working (do
      recordReleaseAuthorization attempt receipt
      pure (some receipt) : Flow (Option ReleaseReceipt)) :=
    only_bind (working recordReleaseAuthorization_only) fun _ => trivial
  have committing (record : HoldRecord) (receipt : ReleaseReceipt) :
      Only Working (commitRelease attempt record receipt approval) := by
    refine only_bind (working only_now) fun evaluatedAt => ?_
    split
    · trivial
    refine only_bind (working (only_invoke trivial)) fun current => ?_
    split
    · trivial
    refine only_bind (only_invoke .release) fun committed => ?_
    split
    · exact authorized _
    refine only_bind (working (only_read _)) fun stored => ?_
    split
    · trivial
    · exact authorized _
  refine only_bind (working (only_read _)) fun record => ?_
  split
  · exact authorized _
  refine only_bind (working only_now) fun evaluatedAt => ?_
  split
  · trivial
  refine only_bind (working (only_invoke trivial)) fun current => ?_
  split
  · trivial
  split
  · trivial
  refine only_bind (working releaseIntent_only) fun intent => ?_
  split
  · trivial
  · exact committing _ _

/-! ## The parts that settle a compensation -/

/-- All calls of a compensation that resumes. -/
inductive Settling : WorkflowOp → Prop where
  | working {op : WorkflowOp} (isWorking : Working op) : Settling op
  | complete {revision : ℕ} {event : ProcessEvent} {seenHold : ℕ}
      (kind : event.kind = .compensationCompleted ∨ event.kind = .recoveryCompleted) :
      Settling (.transition revision .compensated "" event seenHold)
  | lookup {attempt effectClaim : Digest} {holdRevision : ℕ} {value : ReleaseReceiptLookup} :
      Settling (.writeStateIfAbsent (.lookup attempt effectClaim holdRevision) value)

/-- A part of a compensation that settles nothing. -/
theorem settling {p : Flow α} (only : Only Working p) : Only Settling p :=
  only.mono fun _ => .working

section Settling

variable {snapshot : ProcessSnapshot} {effectClaim : EffectCompletionClaim} {holdRevision : ℕ}
  {approval : WorkflowApprovalSnapshot}

/-- A part of the recovery path that makes aside calls only. -/
private theorem fromAside {p : Flow α} (only : Only Aside p) : Only Settling p :=
  settling (working only)

theorem appendTerminal_only : Only Settling (appendTerminal completion holdRevision) := by
  refine only_bind (fromAside only_now) fun recordedAt => ?_
  refine only_bind (only_invoke (.complete (.inr rfl))) fun answer => ?_
  split <;> trivial

theorem commitTerminal_only {receiptDigest : Digest} {evaluatedAt : Option Instant} :
    Only Settling (commitTerminal attempt effectClaim snapshot receiptDigest holdRevision
      evaluatedAt) := by
  refine only_bind (fromAside (only_invoke trivial)) fun found => ?_
  refine only_bind (fromAside committedCompletionDigest_only) fun committed => ?_
  dsimp only
  split
  · exact only_bind (fromAside drainOutbox_only) fun _ => trivial
  refine only_bind ?_ fun now => ?_
  · cases evaluatedAt with
    | none => exact fromAside only_now
    | some _ => trivial
  split
  · exact fromAside reject_only
  refine only_bind (fromAside stageOutbox_only) fun _ => ?_
  refine only_bind appendTerminal_only fun terminal => ?_
  split
  · exact fromAside reject_only
  · exact only_bind (fromAside drainOutbox_only) fun _ => trivial

theorem terminalize_only {digests : List String} :
    Only Settling (terminalize attempt effectClaim snapshot claim approval holdRevision
      digests) := by
  refine only_bind (fromAside (only_read _)) fun lookup => ?_
  split
  · exact commitTerminal_only
  refine only_bind ?_ fun receipt => ?_
  · refine only_bind (fromAside assessAdmission_only) fun assessed => ?_
    split
    · trivial
    split
    · trivial
    · exact settling releaseAdmitted_only
  split
  · exact fromAside reject_only
  · exact only_bind (only_bind (only_invoke .lookup) fun _ => trivial) fun _ =>
      commitTerminal_only

variable {request : RecoveryRequest}

private theorem recoverEffect_only {receipt : String} :
    Only Settling (recoverEffect config snapshot request attempt claim approval holdRevision
      receipt) := by
  refine only_bind (fromAside bindSafeguardEvidence_only) fun bundle => ?_
  split
  · exact fromAside reject_only
  refine only_bind (fromAside claimEffect_only) fun effect => ?_
  split
  · exact fromAside reject_only
  refine only_bind (fromAside only_now) fun now => ?_
  split
  · exact fromAside reject_only
  · exact terminalize_only

private theorem recoverDispatch_only :
    Only Settling (recoverDispatch replica config snapshot request attempt claim approval
      holdRevision) := by
  refine only_bind (fromAside (only_read _)) fun hold => ?_
  split
  · exact fromAside reject_only
  refine only_bind (fromAside authorizeHoldScopedDispatch_only) fun authorized => ?_
  split
  · exact fromAside reject_only
  refine only_bind (fromAside resolveBundle_only) fun _ => ?_
  refine only_bind (fromAside dispatchOnce_only) fun dispatch => ?_
  split
  · exact fromAside reject_only
  · exact fromAside reject_only
  split
  · exact fromAside reject_only
  · exact recoverEffect_only

theorem recover_only : Only Settling (recover replica config snapshot request) := by
  refine only_bind (fromAside (only_read _)) fun hold => ?_
  split
  · trivial
  refine only_bind (fromAside buildAttempt_only) fun built => ?_
  split
  · exact fromAside reject_only
  split
  · exact fromAside reject_only
  refine only_bind (fromAside healCommitted_only) fun healed => ?_
  split
  · trivial
  refine only_bind (fromAside resolveApproval_only) fun approval => ?_
  split
  · exact only_bind (fromAside requestApproval_only) fun _ => fromAside reject_only
  refine only_bind (fromAside assessAdmission_only) fun assessed => ?_
  split
  · exact fromAside reject_only
  refine only_bind (fromAside approvalEvidenceDigest_only) fun evidence => ?_
  refine only_bind (fromAside persistAttempt_only) fun _ => ?_
  refine only_bind (fromAside claimOnce_only) fun claimed => ?_
  split
  · exact fromAside reject_only
  · exact recoverDispatch_only

variable {verified : VerifiedIntents}

theorem complete_only {seenHold : ℕ} : Only Settling (complete snapshot verified seenHold) := by
  refine only_bind (fromAside only_now) fun recordedAt => ?_
  refine only_bind (only_bind (only_invoke (.complete (.inl rfl))) fun answer => ?_) fun _ => ?_
  · split <;> trivial
  · exact only_bind (fromAside (only_audit _)) fun _ => trivial

theorem recoverUnderHold_only {intents : List ProcessEvent} :
    Only Settling (recoverUnderHold c snapshot intents verified) := by
  have closed (reason : String) :
      Only Settling (HeldRecovery.closed <$> incomplete snapshot reason) :=
    settling (only_map incomplete_only)
  unfold recoverUnderHold
  split
  · exact closed _
  refine only_bind (only_tryCatch (only_map recover_only) fun _ => trivial) fun outcome => ?_
  split
  · exact closed _
  refine only_bind (fromAside (only_audit _)) fun _ => ?_
  split
  · exact closed _
  refine only_bind (fromAside (only_read _)) fun hold => ?_
  split
  · exact closed _
  split
  · trivial
  refine only_bind (fromAside (only_invoke trivial)) fun terminal => ?_
  split <;> trivial

theorem closeCompensation_only {intents : List ProcessEvent} :
    Only Settling (closeCompensation c snapshot intents verified) := by
  refine only_bind (fromAside (only_read _)) fun hold => ?_
  split
  · refine only_bind recoverUnderHold_only fun recovery => ?_
    split
    · trivial
    refine only_bind (fromAside (only_invoke trivial)) fun refreshed => ?_
    split
    · exact complete_only
    split
    · trivial
    · exact complete_only
  · exact complete_only

end Settling

end Only

/-- Working calls are permitted at any time. -/
class PermitsWorking (D : FlowDiscipline) : Prop where
  permits : ∀ {me w op}, Working op → D.permit me w op

open PermitsWorking

section Frame

variable {D : FlowDiscipline} [PermitsWorking D] {me : ℕ} {α : Type} {F : World → Prop}

theorem triple_working_bind {β : Type} {p : Flow β} {f : β → Flow α} {goal : α → World → Prop}
    (stable : D.Stable F) (only : Only Working p)
    (next : ∀ b, D.Triple me F (f b) (Returns goal)) : D.Triple me F (p >>= f) (Returns goal) :=
  triple_only_seq stable (fun _ isWorking _ _ _ => permits isWorking) only next

/-- The end of a path that settles nothing. -/
theorem triple_done {p : Flow α} (only : Only Working p) :
    D.Triple me F p (Returns fun _ _ => True) :=
  (triple_only_returns stable_true (fun _ isWorking _ _ _ => permits isWorking) only).pre
    fun _ _ _ => trivial

variable {c : CompensationCoordinator} {snapshot : ProcessSnapshot} {context : Context}

theorem triple_healReleasedRecovery (heals : ∀ snapshot : ProcessSnapshot,
      D.Triple me (fun _ => True) (heal snapshot) (Returns fun _ _ => True)) :
    D.Triple me (fun _ => True) (healReleasedRecovery c snapshot) (Returns fun _ _ => True) := by
  unfold healReleasedRecovery
  split
  · exact triple_done (by trivial)
  refine triple_seq (fun _ _ => True) ?_ fun healed => ?_
  · exact triple_rescue (triple_map (heals snapshot)) fun _ => triple_pure fun _ _ _ => trivial
  split
  · exact triple_done (only_map incomplete_only)
  · exact triple_done (by trivial)
  refine triple_working_bind stable_true (working (only_invoke trivial)) fun _ => ?_
  split
  · exact triple_done (only_map incomplete_only)
  · exact triple_done (only_bind (working (only_invoke trivial)) fun _ => trivial)

theorem triple_takeUpCompensation (resumes : ∀ snapshot : ProcessSnapshot,
      D.Triple me (fun _ => True) (resumeCompensation c snapshot context)
        (Returns fun _ _ => True)) :
    D.Triple me (fun _ => True) (takeUpCompensation c context) (Returns fun _ _ => True) := by
  refine triple_working_bind stable_true (working (only_invoke trivial)) fun found => ?_
  split
  · exact triple_done (by trivial)
  · exact triple_map (resumes _)

end Frame

section Answered

variable {ok : World → WorkflowOp → Prop} {w w' : World} {op : WorkflowOp} {a : WorkflowAns op}

/-- **What a working call does to the process.** It fails the process from the revision it
expects, or appends that a compensation was dispatched, or leaves it as it is. -/
theorem Answered.working_process (h : Answered ok w op a w') (isWorking : Working op) :
    w'.process = w.process ∨ (∃ existing reason at_, w.process.snapshot = some existing ∧
        w'.process.snapshot = some (ProcessStore.advanced existing .failed ""
          (compensationFailedEvent existing.revision reason at_)) ∧
        w'.process.journal = w.process.journal ++
          [compensationFailedEvent existing.revision reason at_]) ∨
      (∃ step actionType proposalRef at_, w'.process.snapshot = w.process.snapshot ∧
        w'.process.journal = w.process.journal ++
          [compensationDispatchedEvent step actionType proposalRef at_]) := by
  cases isWorking with
  | aside isAside => exact .inl (h.aside isAside).1
  | fail =>
    rcases h.transition with ⟨_, -, rfl⟩ | ⟨_, -, -, -, rfl⟩ |
      ⟨-, existing, current, rfl, -, failed, appended, -⟩
    · exact .inl rfl
    · exact .inl rfl
    · exact .inr (.inl ⟨existing, _, _, current, failed, appended⟩)
  | dispatched =>
    rcases h.appendEvent with ⟨rfl, -⟩ | ⟨-, -, same, appended, -⟩
    · exact .inl rfl
    · exact .inr (.inr ⟨_, _, _, _, same, appended⟩)
  | dispatch =>
    obtain rfl := h.dispatch
    exact .inl rfl
  | verify =>
    rcases h.verifyOutcome with ⟨-, rfl⟩ | ⟨-, rfl⟩
    · exact .inl rfl
    · exact .inl rfl
  | issueFirst =>
    rcases h.writeStateIfAbsent with ⟨-, rfl, -⟩ | ⟨-, -, rfl⟩
    · exact .inl rfl
    · exact .inl rfl
  | issueNext =>
    rcases h.compareAndSetState with ⟨-, rfl⟩ | ⟨-, -, rfl⟩
    · exact .inl rfl
    · exact .inl rfl
  | release =>
    rcases h.compareAndSetGuarded with ⟨-, rfl⟩ | ⟨-, -, rfl⟩
    · exact .inl rfl
    · exact .inl rfl

theorem Answered.transition_records {revision : ℕ} {status : ProcessStatus}
    {event : ProcessEvent} {seenHold : ℕ} {a : Except ProcessRuntimeError ProcessSnapshot}
    (h : Answered ok w (.transition revision status step event seenHold) a w') :
    w'.records = w.records := by
  rcases h.transition with ⟨_, -, rfl⟩ | ⟨_, -, -, -, rfl⟩ | ⟨-, _, -, -, -, -, -, -, -, records⟩
  · rfl
  · rfl
  · exact records

/-- **Working calls write no lookup.** -/
theorem Answered.working_lookup (h : Answered ok w op a w') (isWorking : Working op)
    (deciding : Deciding key) (other : key ≠ .hold) :
    w'.records.read key = w.records.read key := by
  cases isWorking with
  | aside isAside => exact (h.aside isAside).2 key deciding
  | fail => rw [h.transition_records]
  | dispatched =>
    rcases h.appendEvent with ⟨rfl, -⟩ | ⟨-, -, -, -, -, -, records⟩
    · rfl
    · rw [records]
  | dispatch =>
    obtain rfl := h.dispatch
    rfl
  | verify =>
    rcases h.verifyOutcome with ⟨-, rfl⟩ | ⟨-, rfl⟩
    · rfl
    · rfl
  | issueFirst =>
    rcases h.writeStateIfAbsent with ⟨-, rfl, -⟩ | ⟨-, -, rfl⟩
    · rfl
    · exact StateStore.read_write_ne _ other
  | issueNext =>
    rcases h.compareAndSetState with ⟨-, rfl⟩ | ⟨-, -, rfl⟩
    · rfl
    · exact StateStore.read_write_ne _ other
  | release =>
    rcases h.compareAndSetGuarded with ⟨-, rfl⟩ | ⟨-, -, rfl⟩
    · rfl
    · exact StateStore.read_write_ne _ other

end Answered

end Fdai.Core
