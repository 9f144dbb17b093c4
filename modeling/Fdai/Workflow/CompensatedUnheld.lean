import Fdai.Workflow.RecoveryFrame

/-!
# A compensated process does not hold its target

Several replicas resume one compensating process. A replica that cannot go on puts the
target under a hold before its transition to `failed`; where another replica completed the
compensation in between, that transition is refused and the hold stays.

* `HoldInTime` — what excludes that: no hold is issued once the process is compensated,
  and none behind the back of a replica that completes the compensation.
* `compensated_unheld` — every run in which holds are issued in time ends without a hold
  of the process, if it ends with a compensated process.
* `hold_survives_compensation` — a run in which they are not.
-/

namespace Fdai.Core

open Fdai.Providers Fdai.Concurrency Program Discipline

def holdOf (w : World) : Option HoldRecord := w.records.read .hold

/-- A hold this process issued is in force. -/
def heldByProcess (w : World) : Bool :=
  (holdOf w).any fun hold => hold.owner = .process ∧ hold.state = .active

/-- The hold was changed since it had this revision. -/
def Past (revision : ℕ) (w : World) : Prop :=
  ∃ hold, holdOf w = some hold ∧ revision < hold.revision

/-- The hold was active at this revision, or was changed since. -/
def ActiveAt (revision : ℕ) (w : World) : Prop :=
  ∃ hold, holdOf w = some hold ∧
    (revision < hold.revision ∨ hold.revision = revision ∧ hold.state = .active)

/-- The hold was not in force at this revision, or was changed since. A target without a
hold counts as revision zero. -/
def Unheld (seen : ℕ) (w : World) : Prop :=
  match holdOf w with
  | none => seen = 0
  | some hold => seen < hold.revision ∨ hold.revision = seen ∧ hold.state = .released

/-- A call that issues a hold. -/
def Issues (w : World) : WorkflowOp → Prop
  | .writeStateIfAbsent .hold _ => holdOf w = none
  | .compareAndSetState .hold _ expectedRevision _ =>
    ∃ hold ∈ holdOf w, hold.revision = expectedRevision
  | _ => False

instance (w : World) (op : WorkflowOp) : Decidable (Issues w op) := by
  unfold Issues
  split <;> infer_instance

/-- **What a working call does to the hold.** It leaves it as it is, or writes the next
revision, which is active only where the call issues it. -/
theorem Answered.hold_cases {ok : World → WorkflowOp → Prop} {w w' : World} {op : WorkflowOp}
    {a : WorkflowAns op} (h : Answered ok w op a w') (isWorking : Working op) :
    holdOf w' = holdOf w ∨ ∃ next, holdOf w' = some next ∧
      next.revision = holdRevisionOf (holdOf w) + 1 ∧ (next.state = .released ∨ Issues w op) := by
  cases isWorking with
  | aside isAside => exact .inl ((h.aside isAside).2 .hold trivial)
  | fail => exact .inl (by rw [holdOf, h.transition_records]; rfl)
  | dispatched =>
    rcases h.appendEvent with ⟨rfl, -⟩ | ⟨-, -, -, -, -, -, records⟩
    · exact .inl rfl
    · exact .inl (by rw [holdOf, records]; rfl)
  | dispatch =>
    obtain rfl := h.dispatch
    exact .inl rfl
  | verify =>
    rcases h.verifyOutcome with ⟨-, rfl⟩ | ⟨-, rfl⟩
    · exact .inl rfl
    · exact .inl rfl
  | issueFirst =>
    rcases h.writeStateIfAbsent with ⟨-, rfl, -⟩ | ⟨-, absent, rfl⟩
    · exact .inl rfl
    · have none : holdOf w = none := absent
      exact .inr ⟨_, StateStore.read_write_self _ _, by rw [none]; rfl, .inr none⟩
  | issueNext =>
    rcases h.compareAndSetState with ⟨-, rfl⟩ | ⟨-, ⟨stored, found, current⟩, rfl⟩
    · exact .inl rfl
    have some : holdOf w = some stored := found
    refine .inr ⟨_, StateStore.read_write_self _ _, ?_, .inr ⟨stored, some, current⟩⟩
    rw [some]
    exact congrArg (· + 1) current.symm
  | release =>
    rcases h.compareAndSetGuarded with ⟨-, rfl⟩ | ⟨-, ⟨stored, found, current⟩, rfl⟩
    · exact .inl rfl
    have some : holdOf w = some stored := found
    refine .inr ⟨_, StateStore.read_write_self _ _, ?_, .inl rfl⟩
    rw [some]
    exact congrArg (· + 1) current.symm

/-- The transition takes effect: its event is new and the process has the expected
revision. -/
def Commits (w : World) (expectedRevision : ℕ) (event : ProcessEvent) : Prop :=
  ¬ w.process.recorded event.idempotencyKey ∧ w.process.snapshot.any (·.revision = expectedRevision)

instance (w : World) (rev : ℕ) (event : ProcessEvent) : Decidable (Commits w rev event) :=
  inferInstanceAs (Decidable (_ ∧ _))

/-- **Holds are issued in time.**

* No hold is issued once the process is compensated.
* When a replica completes the compensation, a hold of the process that is in force is no
  newer than the one the replica last saw. -/
def HoldInTime (w : World) : WorkflowOp → Prop
  | .transition expectedRevision .compensated _ event seenHold =>
    Commits w expectedRevision event →
      ∀ hold ∈ holdOf w, hold.owner = .process → hold.state = .active → hold.revision ≤ seenHold
  | op => Issues w op → isCompensated w = false

instance (w : World) (op : WorkflowOp) : Decidable (HoldInTime w op) := by
  unfold HoldInTime
  split <;> infer_instance

/-! ## The discipline -/

/-- What a replica that resumes asks for, with what it knows when it does. -/
inductive HoldPermit (w : World) : WorkflowOp → Prop where
  | working {op : WorkflowOp} (isWorking : Working op) : HoldPermit w op
  | complete {revision : ℕ} {step : StepId} {event : ProcessEvent} {seenHold : ℕ}
      (unheld : Unheld seenHold w) :
      HoldPermit w (.transition revision .compensated step event seenHold)
  | lookup {attempt effectClaim : Digest} {holdRevision : ℕ} {value : ReleaseReceiptLookup}
      (past : Past holdRevision w) :
      HoldPermit w (.writeStateIfAbsent (.lookup attempt effectClaim holdRevision) value)

/-- A lookup is stored for a revision of the hold that was released only. -/
def LookupsReleased (w : World) : Prop :=
  ∀ attempt effectClaim holdRevision,
    (w.records.read (.lookup attempt effectClaim holdRevision)).isSome → Past holdRevision w

/-- What every run keeps. -/
structure HoldInv (w : World) : Prop where
  unheld : isCompensated w → heldByProcess w = false
  lookups : LookupsReleased w

/-- What a permitted call does to the hold. -/
theorem HoldPermit.hold_cases {w w' : World} {op : WorkflowOp} {a : WorkflowAns op}
    {ok : World → WorkflowOp → Prop} (allowed : HoldPermit w op) (answered : Answered ok w op a w') :
    holdOf w' = holdOf w ∨ ∃ next, holdOf w' = some next ∧
      next.revision = holdRevisionOf (holdOf w) + 1 ∧ (next.state = .released ∨ Issues w op) := by
  cases allowed with
  | working isWorking => exact answered.hold_cases isWorking
  | complete => exact .inl (by rw [holdOf, answered.transition_records]; rfl)
  | lookup =>
    rcases answered.writeStateIfAbsent with ⟨-, rfl, -⟩ | ⟨-, -, rfl⟩
    · exact .inl rfl
    · exact .inl (StateStore.read_write_ne _ (by simp))

/-- The hold is as it was, or it has the next revision. -/
def HoldStep (w w' : World) : Prop :=
  holdOf w' = holdOf w ∨
    ∃ next, holdOf w' = some next ∧ next.revision = holdRevisionOf (holdOf w) + 1

section Step

variable {w w' : World} {op : WorkflowOp} {a : WorkflowAns op} {revision : ℕ}

variable {ok : World → WorkflowOp → Prop}

theorem HoldPermit.step (allowed : HoldPermit w op)
    (answered : Answered ok w op a w') : HoldStep w w' :=
  (allowed.hold_cases answered).imp_right fun ⟨next, found, after, _⟩ => ⟨next, found, after⟩

theorem Past.step (past : Past revision w) (step : HoldStep w w') : Past revision w' := by
  obtain ⟨hold, found, later⟩ := past
  rcases step with same | ⟨next, found', after⟩
  · exact ⟨hold, same.trans found, later⟩
  · rw [found] at after
    exact ⟨next, found', later.trans (by rw [after]; exact Nat.lt_succ_self _)⟩

theorem ActiveAt.step (active : ActiveAt revision w) (step : HoldStep w w') :
    ActiveAt revision w' := by
  obtain ⟨hold, found, atLeast⟩ := active
  rcases step with same | ⟨next, found', after⟩
  · exact ⟨hold, same.trans found, atLeast⟩
  rw [found] at after
  have := atLeast.elim le_of_lt fun h => h.1.ge
  exact ⟨next, found', .inl (by rw [after]; exact Nat.lt_succ_of_le this)⟩

theorem Unheld.step (unheld : Unheld revision w) (step : HoldStep w w') : Unheld revision w' := by
  rcases step with same | ⟨next, found', after⟩
  · rwa [Unheld, same]
  rw [Unheld, found']
  refine .inl ?_
  rw [after, Nat.lt_succ_iff]
  unfold Unheld at unheld
  rcases found : holdOf w with _ | hold
  · rw [found] at unheld; exact unheld.le
  rw [found] at unheld
  exact unheld.elim le_of_lt fun h => h.1.ge

theorem Past.unheld (past : Past revision w) : Unheld revision w := by
  obtain ⟨hold, found, later⟩ := past
  rw [Unheld, found]
  exact .inl later

/-- A hold that was read and is not in force. -/
theorem unheld_of_not_isHeld (notHeld : isHeld (holdOf w) = false) :
    Unheld (holdRevisionOf (holdOf w)) w := by
  unfold Unheld
  rcases found : holdOf w with _ | hold
  · rfl
  rw [found] at notHeld
  exact .inr ⟨rfl, by simpa [isHeld] using notHeld⟩

theorem ActiveAt.past {hold : HoldRecord} (active : ActiveAt revision w)
    (found : holdOf w = some hold) (released : hold.state = .released) : Past revision w := by
  obtain ⟨hold', found', later | ⟨-, stillActive⟩⟩ := active
  · exact ⟨hold', found', later⟩
  · rw [found] at found'
    obtain rfl := Option.some.inj found'
    rw [released] at stillActive
    cases stillActive

/-- Unless the process is compensated by this very call, it was before. -/
theorem HoldPermit.compensated_cases (allowed : HoldPermit w op) (answered : Answered ok w op a w')
    (compensated : isCompensated w') : isCompensated w ∨
      ∃ rev step event seenHold, op = .transition rev .compensated step event seenHold ∧
        Commits w rev event ∧ Unheld seenHold w := by
  have kept (same : w'.process.snapshot = w.process.snapshot) : isCompensated w := by
    rwa [isCompensated, same] at compensated
  cases allowed with
  | working isWorking =>
    rcases answered.working_process isWorking with
      same | ⟨_, _, _, -, failed, -⟩ | ⟨_, _, _, _, same, -⟩
    · exact .inl (kept (by rw [same]))
    · rw [isCompensated, failed] at compensated
      cases compensated
    · exact .inl (kept same)
  | lookup =>
    rcases answered.writeStateIfAbsent with ⟨-, rfl, -⟩ | ⟨-, -, rfl⟩
    · exact .inl compensated
    · exact .inl compensated
  | complete unheld =>
    rcases answered.transition with ⟨_, -, rfl⟩ | ⟨_, -, -, -, rfl⟩ |
      ⟨fresh, existing, current, expected, -⟩
    · exact .inl compensated
    · exact .inl compensated
    · exact .inr ⟨_, _, _, _, rfl, ⟨fresh, by simp [current, expected]⟩, unheld⟩

/-- Every permitted call keeps the lookups to released revisions. -/
theorem HoldPermit.lookups (allowed : HoldPermit w op)
    (answered : Answered ok w op a w') (lookups : LookupsReleased w) : LookupsReleased w' := by
  intro attempt effectClaim holdRevision stored
  refine Past.step ?_ (allowed.step answered)
  have kept (same : w'.records.read (.lookup attempt effectClaim holdRevision) =
      w.records.read (.lookup attempt effectClaim holdRevision)) : Past holdRevision w :=
    lookups _ _ _ (by rwa [same] at stored)
  cases allowed with
  | working isWorking => exact kept (answered.working_lookup isWorking trivial (by simp))
  | complete => exact kept (by rw [answered.transition_records])
  | @lookup attempt' effectClaim' holdRevision' _ past =>
    rcases answered.writeStateIfAbsent with ⟨-, rfl, -⟩ | ⟨-, -, rfl⟩
    · exact kept rfl
    by_cases same : holdRevision = holdRevision'
    · exact same ▸ past
    · exact kept (StateStore.read_write_ne _ (by simp [same]))

end Step

/-- The replicas that resume a compensation. -/
def holdDiscipline : FlowDiscipline where
  permit _ := HoldPermit
  ok := HoldInTime
  inv := HoldInv
  kept := by
    intro _ w op a w' allowed answered inv
    refine ⟨fun compensated => ?_, allowed.lookups answered inv.lookups⟩
    rcases allowed.compensated_cases answered compensated with
      before | ⟨rev, step, event, seenHold, rfl, commits, unheld⟩
    · rcases allowed.hold_cases answered with same | ⟨next, found, -, released | issues⟩
      · rw [heldByProcess, same]
        exact inv.unheld before
      · rw [heldByProcess, found]
        simp [released]
      · have inTime := answered.1
        have notYet : isCompensated w = false := by
          cases op with
          | writeStateIfAbsent | compareAndSetState => exact inTime issues
          | _ => exact issues.elim
        rw [before] at notYet
        cases notYet
    · have same : holdOf w' = holdOf w := by rw [holdOf, answered.transition_records]; rfl
      have inTime : ∀ hold ∈ holdOf w, hold.owner = .process → hold.state = .active →
          hold.revision ≤ seenHold := answered.1 commits
      rw [heldByProcess, same]
      rcases found : holdOf w with _ | hold
      · rfl
      by_contra held
      obtain ⟨owned, active⟩ : hold.owner = .process ∧ hold.state = .active := by
        simpa using held
      have notNewer := inTime hold found owned active
      rw [Unheld, found] at unheld
      rcases unheld with newer | ⟨-, released⟩
      · omega
      · rw [active] at released
        cases released

/-! ## Every replica keeps to it -/

section Triples

variable {me : ℕ} {α : Type} {c : CompensationCoordinator}
  {attempt : RecoveryAttemptIdentity} {claim : RecoveryPreDispatchClaim}
  {effectClaim : EffectCompletionClaim} {approval : WorkflowApprovalSnapshot}
  {snapshot : ProcessSnapshot} {holdRevision : ℕ} {digests : List String}

theorem stable_past : holdDiscipline.Stable (Past holdRevision) :=
  fun _ _ _ _ _ _ allowed answered past => past.step (allowed.step answered)

theorem stable_activeAt : holdDiscipline.Stable (ActiveAt holdRevision) :=
  fun _ _ _ _ _ _ allowed answered active => active.step (allowed.step answered)

theorem stable_unheld : holdDiscipline.Stable (Unheld holdRevision) :=
  fun _ _ _ _ _ _ allowed answered unheld => unheld.step (allowed.step answered)

variable {F : World → Prop}

instance : PermitsWorking holdDiscipline := ⟨HoldPermit.working⟩

theorem triple_readHold {f : Option HoldRecord → Flow α}
    {goal : α → World → Prop} (stable : holdDiscipline.Stable F)
    (next : ∀ hold, holdDiscipline.Triple me (fun w => F w ∧ holdOf w = hold) (f hold)
      (Returns goal)) :
    holdDiscipline.Triple me F (Flow.read .hold >>= f) (Returns goal) :=
  triple_call stable (fun w _ _ => .working (.aside trivial)) (fun hold w => F w ∧ holdOf w = hold)
    (fun w hold w' _ known answered _ => by
      obtain ⟨rfl, rfl⟩ := answered.readState
      exact ⟨known, rfl⟩) next

/-- A receipt proves that the hold is not at the released revision any more. -/
private def Proves (holdRevision : ℕ) (receipt : Option ReleaseReceipt) (w : World) : Prop :=
  receipt.isSome → Past holdRevision w

theorem triple_refused :
    holdDiscipline.Triple me F (pure none) (Returns (Proves holdRevision)) :=
  triple_pure fun _ _ _ isSome => nomatch isSome

theorem triple_authorized (receipt : ReleaseReceipt) :
    holdDiscipline.Triple me (Past holdRevision)
      (do recordReleaseAuthorization attempt receipt; pure (some receipt))
      (Returns (Proves holdRevision)) :=
  triple_working_bind stable_past (working recordReleaseAuthorization_only) fun _ =>
    triple_pure fun _ _ past _ => past

/-- The hold has a receipt of the release, so it was changed since it was active. -/
theorem past_of_matching {w : World} {hold : Option HoldRecord} {actionId : Digest}
    {revision : ℕ} {admission : String} {receipt : ReleaseReceipt}
    (known : ActiveAt holdRevision w ∧ holdOf w = hold)
    (matching : matchingReleaseReceipt hold actionId revision admission = some receipt) :
    Past holdRevision w := by
  unfold matchingReleaseReceipt at matching
  split at matching
  · cases matching
  split at matching
  · cases matching
  · rename_i released
    exact known.1.past known.2 (not_not.1 released)

private theorem triple_commitRelease {record : HoldRecord} {receipt : ReleaseReceipt}
    (same : receipt.releasedHoldRevision = holdRevision) :
    holdDiscipline.Triple me (ActiveAt holdRevision)
      (commitRelease attempt record receipt approval) (Returns (Proves holdRevision)) := by
  refine triple_working_bind stable_activeAt (working (only_invoke trivial)) fun evaluatedAt => ?_
  split
  · exact triple_refused
  refine triple_working_bind stable_activeAt (working (only_invoke trivial)) fun current => ?_
  split
  · exact triple_refused
  refine triple_call stable_activeAt (fun _ _ _ => .working .release)
    (fun committed w => ActiveAt holdRevision w ∧ (committed = true → Past holdRevision w))
    (fun w committed w' _ known answered _ => ?_) fun committed => ?_
  · refine ⟨known.step ((HoldPermit.working .release).step answered), ?_⟩
    rintro rfl
    rcases answered.compareAndSetGuarded with ⟨⟨⟩, -⟩ | ⟨-, -, rfl⟩
    exact ⟨_, StateStore.read_write_self _ _, same ▸ Nat.lt_succ_self _⟩
  split
  · rename_i isCommitted
    exact (triple_authorized _).pre fun _ _ known => known.2 isCommitted
  refine Triple.pre (F := ActiveAt holdRevision) ?_ fun _ _ known => known.1
  refine triple_readHold stable_activeAt fun hold => ?_
  split
  · exact triple_refused
  · rename_i matching
    exact (triple_authorized _).pre fun _ _ known => past_of_matching known matching

/-- **A release leaves the hold at another revision.** -/
private theorem triple_releaseAdmitted {admission : String} :
    holdDiscipline.Triple me (ActiveAt holdRevision)
      (releaseAdmitted attempt holdRevision approval digests admission)
      (Returns (Proves holdRevision)) := by
  refine triple_readHold stable_activeAt fun hold => ?_
  split
  · rename_i matching
    exact (triple_authorized _).pre fun _ _ known => past_of_matching known matching
  refine Triple.pre (F := ActiveAt holdRevision) ?_ fun _ _ known => known.1
  refine triple_working_bind stable_activeAt (working (only_invoke trivial)) fun evaluatedAt => ?_
  split
  · exact triple_refused
  refine triple_working_bind stable_activeAt (working (only_invoke trivial)) fun current => ?_
  split
  · exact triple_refused
  split
  · exact triple_refused
  refine triple_working_bind stable_activeAt (working releaseIntent_only) fun intent => ?_
  split
  · exact triple_refused
  · exact triple_commitRelease rfl

/-- **The terminal commit** is made under a revision of the hold that is past. -/
private theorem triple_commitTerminal {receiptDigest : Digest} {evaluatedAt : Option Instant} :
    holdDiscipline.Triple me (Past holdRevision)
      (commitTerminal attempt effectClaim snapshot receiptDigest holdRevision evaluatedAt)
      (Returns fun _ _ => True) := by
  refine triple_working_bind stable_past (working (only_invoke trivial)) fun found => ?_
  refine triple_working_bind stable_past (working committedCompletionDigest_only)
    fun committed => ?_
  dsimp only
  split
  · exact triple_done (only_bind (working drainOutbox_only) fun _ => trivial)
  have judged (completion : RecoveryCompletion) : holdDiscipline.Triple me (Past holdRevision)
      (commitCompletion attempt effectClaim completion holdRevision)
      (Returns fun _ _ => True) := by
    refine triple_working_bind stable_past (working stageOutbox_only) fun _ => ?_
    refine triple_seq (fun _ _ => True) ?_ fun terminal => ?_
    · refine triple_working_bind stable_past (working (only_invoke trivial)) fun recordedAt => ?_
      refine triple_call stable_past (fun _ _ past => .complete past.unheld) (fun _ _ => True)
        (fun _ _ _ _ _ _ _ => trivial) fun answer => ?_
      split <;> exact triple_done (by trivial)
    · split
      · exact triple_done (working reject_only)
      · exact triple_done (only_bind (working drainOutbox_only) fun _ => trivial)
  refine triple_working_bind stable_past ?_ fun now => ?_
  · cases evaluatedAt with
    | none => exact working (only_invoke trivial)
    | some _ => trivial
  split
  · exact triple_done (working reject_only)
  · exact judged _

/-- `terminalize` is entered under a revision of the hold that was active. -/
private theorem triple_terminalize : holdDiscipline.Triple me (ActiveAt holdRevision)
      (terminalize attempt effectClaim snapshot claim approval holdRevision digests)
      (Returns fun _ _ => True) := by
  refine triple_call stable_activeAt (fun _ _ _ => .working (.aside trivial))
    (fun lookup w => ActiveAt holdRevision w ∧ (lookup.isSome → Past holdRevision w))
    (fun w lookup w' inv known answered _ => ?_) fun lookup => ?_
  · obtain ⟨rfl, rfl⟩ := answered.readState
    exact ⟨known, inv.lookups _ _ _⟩
  split
  · exact triple_commitTerminal.pre fun _ _ known => known.2 rfl
  refine Triple.pre (F := ActiveAt holdRevision) ?_ fun _ _ known => known.1
  refine triple_seq (Proves holdRevision) ?_ fun receipt => ?_
  · refine triple_working_bind stable_activeAt (working assessAdmission_only) fun assessed => ?_
    split
    · exact triple_refused
    split
    · exact triple_refused
    · exact triple_releaseAdmitted
  split
  · exact triple_done (working reject_only)
  refine Triple.pre (F := Past holdRevision) ?_ fun _ _ proves => proves rfl
  refine triple_seq (fun _ => Past holdRevision) ?_ fun _ => triple_commitTerminal
  refine triple_call stable_past (fun _ _ past => .lookup past) (fun _ => Past holdRevision)
    (fun _ _ _ _ past answered _ => past.step ((HoldPermit.lookup past).step answered))
    fun _ => triple_pure fun _ _ past => past

private theorem activeAt_of_read {w : World} {hold : Option HoldRecord}
    (found : holdOf w = hold) (active : activeHoldRevision hold = some holdRevision) :
    ActiveAt holdRevision w := by
  unfold activeHoldRevision at active
  split at active
  · cases active
  split at active
  · cases active
  split at active
  · cases active
  · rename_i isActive _
    exact ⟨_, found, .inr ⟨Option.some.inj active, not_not.1 isActive⟩⟩

variable {config : RecoveryCoordinatorConfig} {request : RecoveryRequest}

private theorem triple_recoverEffect {receipt : String} :
    holdDiscipline.Triple me (ActiveAt holdRevision)
      (recoverEffect config snapshot request attempt claim approval holdRevision receipt)
      (Returns fun _ _ => True) := by
  refine triple_working_bind stable_activeAt (working bindSafeguardEvidence_only) fun bundle => ?_
  split
  · exact triple_done (working reject_only)
  refine triple_working_bind stable_activeAt (working claimEffect_only) fun effect => ?_
  split
  · exact triple_done (working reject_only)
  refine triple_working_bind stable_activeAt (working (only_invoke trivial)) fun now => ?_
  split
  · exact triple_done (working reject_only)
  · exact triple_terminalize

variable {replica : ℕ}

private theorem triple_recoverDispatch : holdDiscipline.Triple me (fun _ => True)
      (recoverDispatch replica config snapshot request attempt claim approval holdRevision)
      (Returns fun _ _ => True) := by
  refine triple_readHold stable_true fun hold => ?_
  split
  · exact triple_done (working reject_only)
  rename_i current
  refine Triple.pre (F := ActiveAt holdRevision) ?_ fun _ _ known =>
    activeAt_of_read known.2 (not_not.1 current)
  refine triple_working_bind stable_activeAt (working authorizeHoldScopedDispatch_only)
    fun authorized => ?_
  split
  · exact triple_done (working reject_only)
  refine triple_working_bind stable_activeAt (working resolveBundle_only) fun _ => ?_
  refine triple_working_bind stable_activeAt (working dispatchOnce_only) fun dispatch => ?_
  split
  · exact triple_done (working reject_only)
  · exact triple_done (working reject_only)
  split
  · exact triple_done (working reject_only)
  · exact triple_recoverEffect

private theorem triple_recoverClaim : holdDiscipline.Triple me (fun _ => True)
      (recoverClaim replica config snapshot request attempt approval holdRevision)
      (Returns fun _ _ => True) := by

  refine triple_working_bind stable_true (working approvalEvidenceDigest_only) fun evidence => ?_
  refine triple_working_bind stable_true (working persistAttempt_only) fun _ => ?_
  refine triple_working_bind stable_true (working claimOnce_only) fun claimed => ?_
  split
  · exact triple_done (working reject_only)
  · exact triple_recoverDispatch

private theorem triple_recover : holdDiscipline.Triple me (fun _ => True)
      (recover replica config snapshot request) (Returns fun _ _ => True) := by
  refine triple_working_bind stable_true (working (only_invoke trivial)) fun hold => ?_
  split
  · exact triple_done (by trivial)
  refine triple_working_bind stable_true (working buildAttempt_only) fun built => ?_
  split
  · exact triple_done (working reject_only)
  split
  · exact triple_done (working reject_only)
  refine triple_working_bind stable_true (working healCommitted_only) fun healed => ?_
  split
  · exact triple_done (by trivial)
  refine triple_working_bind stable_true (working resolveApproval_only) fun approval => ?_
  split
  · exact triple_done (only_bind (working requestApproval_only) fun _ => working reject_only)
  refine triple_working_bind stable_true (working assessAdmission_only) fun assessed => ?_
  split
  · exact triple_done (working reject_only)
  · exact triple_recoverClaim

/-- **Healing** takes a release up only where the hold on record proves it. -/
private theorem triple_heal : holdDiscipline.Triple me (fun _ => True) (heal snapshot)
    (Returns fun _ _ => True) := by
  refine triple_working_bind stable_true (working (only_invoke trivial)) fun found => ?_
  split
  · exact triple_done trivial
  refine triple_working_bind stable_true (working healCommitted_only) fun healed => ?_
  split
  · exact triple_done trivial
  refine triple_working_bind stable_true (working (only_invoke trivial)) fun lookup => ?_
  split
  · exact triple_done trivial
  rename_i lookup
  refine triple_working_bind stable_true (working readCurrentClaim_only) fun effectClaim => ?_
  split
  · exact triple_done trivial
  split
  · exact triple_done trivial
  rename_i effectClaim _
  refine triple_seq (fun consumed w =>
    consumed.isSome → Past (ReleaseReceiptLookup.holdRevision lookup) w) ?_ fun consumed => ?_
  · refine triple_readHold stable_true fun hold => triple_pure fun w _ known isSome => ?_
    rcases hold with _ | hold
    · cases isSome
    refine ⟨hold, known.2, ?_⟩
    dsimp only [Option.bind] at isSome
    split at isSome
    · cases isSome
    split at isSome
    · cases isSome
    split at isSome
    · cases isSome
    rename_i matching
    have : hold.revision = ReleaseReceiptLookup.holdRevision lookup + 1 := by
      by_contra other
      exact matching (.inr (.inr (.inr (.inr other))))
    omega
  split
  · exact triple_done (only_map (working reject_only))
  · exact triple_map (triple_commitTerminal.pre fun _ _ proves => proves rfl)

/-- The process may be terminalized only where the hold was seen not to be in force. -/
private def Frees (recovery : HeldRecovery) (w : World) : Prop :=
  ∀ seenHold, recovery = .released seenHold → Unheld seenHold w

private theorem triple_closed {reason : String} :
    holdDiscipline.Triple me F (HeldRecovery.closed <$> incomplete snapshot reason)
      (Returns Frees) :=
  triple_map ((triple_done incomplete_only).mono (fun _ _ => id) fun r _ _ _ => by
    cases r with
    | ok _ => exact fun _ other => nomatch other
    | error _ => trivial)

variable {verified : VerifiedIntents}

private theorem triple_recoverUnderHold {intents : List ProcessEvent}
    : holdDiscipline.Triple me (fun _ => True)
      (recoverUnderHold c snapshot intents verified) (Returns Frees) := by
  unfold recoverUnderHold
  split
  · exact triple_closed
  refine triple_seq (fun _ _ => True) ?_ fun outcome => ?_
  · exact triple_rescue (triple_map triple_recover) fun _ => triple_pure fun _ _ _ => trivial
  split
  · exact triple_closed
  refine triple_working_bind stable_true (working (only_invoke trivial)) fun _ => ?_
  split
  · exact triple_closed
  refine triple_readHold stable_true fun hold => ?_
  split
  · exact triple_closed
  rename_i notHeld
  refine Triple.pre (F := Unheld (holdRevisionOf hold)) ?_ fun w _ known => ?_
  · have released : holdDiscipline.Triple me (Unheld (holdRevisionOf hold))
        (pure (HeldRecovery.released (holdRevisionOf hold))) (Returns Frees) := by
      refine triple_pure fun w _ unheld seenHold same => ?_
      obtain rfl := HeldRecovery.released.inj same
      exact unheld
    split
    · exact released
    refine triple_working_bind stable_unheld (working (only_invoke trivial)) fun terminal => ?_
    split
    · exact triple_pure fun _ _ _ _ other => nomatch other
    · exact released
  · obtain ⟨-, rfl⟩ := known
    exact unheld_of_not_isHeld (by simpa using notHeld)

private theorem triple_complete {seenHold : ℕ} :
    holdDiscipline.Triple me (Unheld seenHold) (complete snapshot verified seenHold)
      (Returns fun _ _ => True) := by
  refine triple_working_bind stable_unheld (working (only_invoke trivial)) fun recordedAt => ?_
  refine triple_seq (fun _ _ => True) ?_ fun completed => ?_
  · refine triple_call stable_unheld (fun _ _ unheld => .complete unheld) (fun _ _ => True)
      (fun _ _ _ _ _ _ _ => trivial) fun answer => ?_
    split <;> exact triple_done (by trivial)
  · exact triple_done (working (only_bind (only_invoke trivial) fun _ => trivial))

private theorem triple_closeCompensation {intents : List ProcessEvent}
    : holdDiscipline.Triple me (fun _ => True)
      (closeCompensation c snapshot intents verified) (Returns fun _ _ => True) := by
  refine triple_readHold stable_true fun hold => ?_
  split
  · refine triple_seq Frees (triple_recoverUnderHold.pre fun _ _ _ => trivial) fun recovery => ?_
    split
    · exact triple_done (by trivial)
    rename_i seenHold
    refine Triple.pre (F := Unheld seenHold) ?_ fun _ _ frees => frees seenHold rfl
    refine triple_working_bind stable_unheld (working (only_invoke trivial)) fun refreshed => ?_
    split
    · exact triple_complete
    split
    · exact triple_done (by trivial)
    · exact triple_complete
  · rename_i notHeld
    refine triple_complete.pre fun w _ known => ?_
    obtain ⟨-, rfl⟩ := known
    exact unheld_of_not_isHeld (by simpa using notHeld)

/-- **A replica that resumes a compensation keeps to the permitted calls.** -/
private theorem triple_resumeCompensation {context : Context} :
    holdDiscipline.Triple me (fun _ => True) (resumeCompensation c snapshot context)
      (Returns fun _ _ => True) := by
  refine triple_working_bind stable_true (working (only_invoke trivial)) fun events => ?_
  dsimp only
  split
  · exact triple_done incomplete_only
  refine triple_seq (fun _ _ => True) (triple_healReleasedRecovery fun _ => triple_heal)
    fun healed => ?_
  split
  · exact triple_done (by trivial)
  refine triple_working_bind stable_true (dispatchIntents_only _ _) fun dispatched => ?_
  split
  · exact triple_done (by trivial)
  refine triple_working_bind stable_true (verifyIntents_only _ _) fun verified => ?_
  split
  · exact triple_done (by trivial)
  · exact triple_closeCompensation

private theorem triple_takeUp {context : Context} :
    holdDiscipline.Triple me (fun _ => True) (takeUpCompensation c context)
      (Returns fun _ _ => True) :=
  triple_takeUpCompensation fun _ => triple_resumeCompensation

end Triples

/-- A process whose compensation was started. Lookups of earlier releases may be stored. -/
structure Compensating (w : World) : Prop where
  status : w.process.snapshot.any (·.status = .compensating)
  lookups : LookupsReleased w

theorem Compensating.inv {w : World} (compensating : Compensating w) : HoldInv w := by
  refine ⟨fun compensated => ?_, compensating.lookups⟩
  have status := compensating.status
  unfold isCompensated at compensated
  rcases found : w.process.snapshot with _ | snapshot
  · rw [found] at status; cases status
  rw [found] at status compensated
  have isCompensating : snapshot.status = .compensating := by simpa using status
  have isCompensated : snapshot.status = .compensated := by simpa using compensated
  rw [isCompensating] at isCompensated
  cases isCompensated

/-- **A compensated process does not hold its target**, as long as holds are issued in
time. -/
theorem compensated_unheld (w : World) (compensating : Compensating w)
    (moves : List (Move (CompensationCoordinator × Context) Oracle))
    (inTime : (workflowMachine compensationReplica).Observes HoldInTime (Machine.idle w) moves) :
    isCompensated ((workflowMachine compensationReplica).run (Machine.idle w) moves).world →
      heldByProcess ((workflowMachine compensationReplica).run (Machine.idle w) moves).world =
        false :=
  (holdDiscipline.run_inv_of_triple
    (fun _ _ => triple_takeUp.mono (fun _ _ => id) fun _ _ _ _ => trivial)
    compensating.inv inTime).unheld

/-- One step to undo, whose undoing was dispatched. -/
private def undoing : World :=
  { process :=
      { snapshot := some
          { status := .compensating, currentStep := "compensate_apply", updatedAt := 0
            revision := 3 }
        journal := [compensationStartedEvent "apply" "config.restore" [] 0,
          compensationDispatchedEvent "apply" "config.restore" "restore" 0]
        uncreated := by simp
        keys := by decide } }

private theorem undoing_compensating : Compensating undoing := ⟨rfl, fun _ _ _ stored => nomatch stored⟩

/-- A replica that is told how the undoing ended. -/
private def undone (status : String) : CompensationCoordinator × Context :=
  ({ replica := 0, outcomeVerifier := some .verifier },
    [("compensation.apply.status", status), ("compensation.apply.receipt_ref", "receipt"),
      ("compensation.apply.safeguard_bundle_digest", "bundle")])

/-- Two replicas are told the opposite. Each entry is one replica and a number of its
calls. -/
private def undoMoves (turns : List (ℕ × ℕ)) :
    List (Move (CompensationCoordinator × Context) Oracle) :=
  [.start (undone "verified"), .start (undone "failed")] ++
    turns.flatMap fun turn => List.replicate turn.2 (.advance turn.1 {})

/-- The first replica has seen that there is no hold; the second issues one; the first
completes the compensation, and the transition of the second is refused. -/
theorem hold_survives_compensation : ¬ ∀ w, Compensating w → ∀ moves,
      isCompensated ((workflowMachine compensationReplica).run (Machine.idle w) moves).world →
        heldByProcess ((workflowMachine compensationReplica).run (Machine.idle w) moves).world =
          false := by
  intro always
  have unheld := always undoing undoing_compensating (undoMoves [(0, 4), (1, 5), (0, 2), (1, 2)])
    (by decide +kernel)
  have held : heldByProcess ((workflowMachine compensationReplica).run (Machine.idle undoing)
      (undoMoves [(0, 4), (1, 5), (0, 2), (1, 2)])).world = true := by decide +kernel
  rw [held] at unheld
  cases unheld

/-- The second replica comes after the first. -/
theorem compensated_unheld_in_turn :
    heldByProcess ((workflowMachine compensationReplica).run (Machine.idle undoing)
      (undoMoves [(0, 7), (1, 7)])).world = false :=
  compensated_unheld undoing undoing_compensating (undoMoves [(0, 7), (1, 7)])
    (by decide +kernel) (by decide +kernel)

end Fdai.Core
