import Fdai.Workflow.RecoveryFrame

/-!
# A compensated process has undone what it applied

`start` records and dispatches one intent after the other, the last applied step first;
`resume` goes by the intents it finds. A `start` that is cut off between two intents leaves
steps behind that no `resume` knows of.

* `CompensationVerified` — one step was undone, in the verifier's word.
* `compensation_complete` — a process that was compensated after a `start` that left such
  intents has every applied step undone.
* `compensation_misses_step` — a process that was compensated after another `start`.
-/

namespace Fdai.Core

open Fdai.Providers Fdai.Concurrency Program Discipline

structure CompensationVerified (w : World) (step : StepId) : Prop where
  started : ∃ e ∈ w.process.journal, e.kind = .compensationStarted ∧ compensated e = step
  dispatched : ∃ e ∈ w.process.journal, e.kind = .compensationDispatched ∧ compensated e = step
  verified : ∃ proposalRef, .verified (compensationStep step) proposalRef .succeeded ∈ w.log

theorem CompensationVerified.grows {w w' : World} {step : StepId}
    (verified : CompensationVerified w step) (grows : Grows w w') :
    CompensationVerified w' step := by
  obtain ⟨⟨e, started, isStart⟩, ⟨d, dispatched, isDispatch⟩, ref, logged⟩ := verified
  exact ⟨⟨e, grows.mem_journal started, isStart⟩, ⟨d, grows.mem_journal dispatched, isDispatch⟩,
    ref, grows.mem_log logged⟩

/-- There are intents, and these ones were verified. -/
def AllVerified (intents : List ProcessEvent) (w : World) : Prop :=
  intents ≠ [] ∧ ∀ e ∈ intents, CompensationVerified w (compensated e)

theorem AllVerified.grows {intents : List ProcessEvent} {w w' : World}
    (all : AllVerified intents w) (grows : Grows w w') : AllVerified intents w' :=
  ⟨all.1, fun e mem => (all.2 e mem).grows grows⟩

/-- A process that is being compensated has the intents of all applied steps on record, or
none. -/
def IntentsCover (w : World) : Prop :=
  isCompensating w → intentEvents w.process.journal = [] ∨ ∀ step ∈ appliedSteps w.process.journal,
      ∃ e ∈ intentEvents w.process.journal, compensated e = step

instance (w : World) : Decidable (IntentsCover w) :=
  inferInstanceAs (Decidable (_ → _ ∨ _))

/-- No release of the hold has a lookup. -/
def Unreleased (w : World) : Prop :=
  ∀ attempt effectClaim holdRevision,
    w.records.read (.lookup attempt effectClaim holdRevision) = none

/-! ## Resuming -/

/-- What every run of replicas that resume keeps. -/
structure VerifyInv (intents : List ProcessEvent) (w : World) : Prop where
  recorded : intentEvents w.process.journal = intents
  compensated : isCompensated w → AllVerified intents w
  lookups : ∀ attempt effectClaim holdRevision,
    (w.records.read (.lookup attempt effectClaim holdRevision)).isSome → AllVerified intents w

/-- What a replica that resumes asks for: it settles the compensation only once all intents
are verified. -/
inductive VerifyPermit (intents : List ProcessEvent) (w : World) : WorkflowOp → Prop where
  | working {op : WorkflowOp} (isWorking : Working op) : VerifyPermit intents w op
  | settling {op : WorkflowOp} (isSettling : Settling op) (all : AllVerified intents w) :
      VerifyPermit intents w op

section Step

variable {intents : List ProcessEvent} {w w' : World} {op : WorkflowOp} {a : WorkflowAns op}
  {ok : World → WorkflowOp → Prop}

private theorem intentEvents_append {events : List ProcessEvent} {event : ProcessEvent}
    (other : event.kind ≠ .compensationStarted) :
    intentEvents (events ++ [event]) = intentEvents events := by
  simp [intentEvents, other]

private theorem VerifyInv.working (inv : VerifyInv intents w) (isWorking : Working op)
    (answered : Answered ok w op a w') : VerifyInv intents w' := by
  have grows := answered.grows
  refine ⟨?_, fun compensated => ?_, fun attempt effectClaim holdRevision stored => ?_⟩
  · rw [← inv.recorded]
    rcases answered.working_process isWorking with
      same | ⟨_, _, _, -, -, appended⟩ | ⟨_, _, _, _, -, appended⟩
    · rw [same]
    · rw [appended, intentEvents_append (by simp [compensationFailedEvent])]
    · rw [appended, intentEvents_append (by simp [compensationDispatchedEvent])]
  · refine (inv.compensated ?_).grows grows
    rcases answered.working_process isWorking with
      same | ⟨_, _, _, -, failed, -⟩ | ⟨_, _, _, _, same, -⟩
    · rwa [isCompensated, same] at compensated
    · rw [isCompensated, failed] at compensated
      cases compensated
    · rwa [isCompensated, same] at compensated
  · have same : w'.records.read (.lookup attempt effectClaim holdRevision) =
        w.records.read (.lookup attempt effectClaim holdRevision) :=
      answered.working_lookup isWorking trivial (by simp)
    rw [same] at stored
    exact (inv.lookups _ _ _ stored).grows grows

private theorem VerifyInv.kept (inv : VerifyInv intents w) (allowed : VerifyPermit intents w op)
    (answered : Answered ok w op a w') : VerifyInv intents w' := by
  cases allowed with
  | working isWorking => exact inv.working isWorking answered
  | settling isSettling all =>
    have all' := all.grows answered.grows
    cases isSettling with
    | working isWorking => exact inv.working isWorking answered
    | lookup =>
      rcases answered.writeStateIfAbsent with ⟨-, rfl, -⟩ | ⟨-, -, rfl⟩
      · exact inv
      · exact ⟨inv.recorded, fun _ => all', fun _ _ _ _ => all'⟩
    | complete kind =>
      refine ⟨?_, fun _ => all', fun _ _ _ _ => all'⟩
      rcases answered.transition with ⟨_, -, rfl⟩ | ⟨_, -, -, -, rfl⟩ |
        ⟨-, _, -, -, -, -, appended, -⟩
      · exact inv.recorded
      · exact inv.recorded
      · rw [appended, intentEvents_append (by rcases kind with h | h <;> simp [h]), inv.recorded]

end Step

/-- The replicas that resume a compensation with these intents. -/
def verifyDiscipline (intents : List ProcessEvent) : FlowDiscipline where
  permit _ := VerifyPermit intents
  ok _ _ := True
  inv := VerifyInv intents
  kept allowed answered inv := inv.kept allowed answered

namespace Verifying

variable {intents : List ProcessEvent} {me : ℕ} {α : Type} {c : CompensationCoordinator}
  {snapshot : ProcessSnapshot}

variable {F : World → Prop}

private theorem stable_of_grows (kept : ∀ {w w'}, F w → Grows w w' → F w') :
    (verifyDiscipline intents).Stable F :=
  fun _ _ _ _ _ _ _ answered known => kept known (Answered.grows answered)

private theorem stable_allVerified : (verifyDiscipline intents).Stable (AllVerified intents) :=
  stable_of_grows AllVerified.grows

instance : PermitsWorking (verifyDiscipline intents) := ⟨VerifyPermit.working⟩

/-- A path that settles the compensation. -/
private theorem triple_settled {p : Flow α} (only : Only Settling p) :
    (verifyDiscipline intents).Triple me (AllVerified intents) p (Returns fun _ _ => True) :=
  (triple_only_returns stable_allVerified
    (fun _ isSettling _ _ all => VerifyPermit.settling isSettling all) only).mono
    (fun _ _ => id) fun r _ _ _ => by cases r <;> trivial

/-- **Healing** goes by a lookup, and a lookup is stored once all intents are verified. -/
private theorem triple_heal : (verifyDiscipline intents).Triple me (fun _ => True) (heal snapshot)
      (Returns fun _ _ => True) := by
  refine triple_working_bind stable_true (working (only_invoke trivial)) fun found => ?_
  split
  · exact triple_done trivial
  refine triple_working_bind stable_true (working healCommitted_only) fun healed => ?_
  split
  · exact triple_done trivial
  refine triple_call stable_true (fun _ _ _ => .working (.aside trivial))
    (fun lookup w => lookup.isSome → AllVerified intents w)
    (fun w lookup w' inv _ answered _ isSome => ?_) fun lookup => ?_
  · obtain ⟨rfl, rfl⟩ := answered.findLookup
    obtain ⟨lookup, found⟩ := Option.isSome_iff_exists.1 isSome
    obtain ⟨attempt, effectClaim, holdRevision, stored⟩ := Records.findLookup_stored found
    exact inv.lookups attempt effectClaim holdRevision (by rw [stored]; rfl)
  split
  · exact triple_done trivial
  refine Triple.pre (F := AllVerified intents) ?_ fun _ _ all => all rfl
  refine triple_working_bind stable_allVerified (working readCurrentClaim_only)
    fun effectClaim => ?_
  split
  · exact triple_done trivial
  split
  · exact triple_done trivial
  refine triple_working_bind stable_allVerified
    (working (only_bind (only_invoke trivial) fun _ => trivial)) fun consumed => ?_
  split
  · exact triple_done (only_map (working reject_only))
  · exact triple_map (triple_settled commitTerminal_only)

/-! ### Verification -/

/-- The verifier gave its word that the compensation of a step succeeded. -/
private def Accepted (step : StepId) (w : World) : Prop :=
  ∃ proposalRef, .verified (compensationStep step) proposalRef .succeeded ∈ w.log

variable {step : StepId}

private theorem stable_accepted : (verifyDiscipline intents).Stable (Accepted step) :=
  stable_of_grows fun ⟨ref, logged⟩ grows => ⟨ref, grows.mem_log logged⟩

/-- What a check says of a step. -/
private def Confirms (step : StepId) (check : IntentCheck) (w : World) : Prop :=
  ∀ receiptRef bundle, check = .judged true .succeeded receiptRef bundle → Accepted step w

private theorem triple_verifyCompensation {proposalRef receiptRef : String}
    {outcome : ActionOutcome} {bundle : Option String} :
    (verifyDiscipline intents).Triple me (fun _ => True)
      (verifyCompensation step proposalRef outcome receiptRef bundle)
      (Returns (Confirms step)) := by
  refine triple_call stable_true (fun _ _ _ => .working .verify)
    (fun answer w => answer = .ok true → outcome = .succeeded → Accepted step w)
    (fun w answer w' _ _ answered _ => ?_) fun answer => ?_
  · rintro rfl rfl
    rcases answered.verifyOutcome with ⟨refused, -⟩ | ⟨-, rfl⟩
    · exact absurd rfl refused
    · exact ⟨proposalRef, by simp⟩
  split
  · exact triple_raise fun _ _ _ => trivial
  refine triple_pure fun w _ accepted receiptRef bundle same => ?_
  obtain ⟨rfl, rfl, -, -⟩ := IntentCheck.judged.inj same
  exact accepted rfl rfl

private theorem triple_returned {p : Flow CompensationResult} (only : Only Working p) :
    (verifyDiscipline intents).Triple me (fun _ => True) (IntentCheck.returned <$> p)
      (Returns (Confirms step)) :=
  triple_map ((triple_done only).mono (fun _ _ => id) fun r _ _ _ => by
    cases r with
    | ok _ => exact fun _ _ other => nomatch other
    | error _ => trivial)

variable {context : Context}

private theorem triple_checkIntent {kind : VerifierKind} {current : ProcessSnapshot}
    {proposalRef : String} :
    (verifyDiscipline intents).Triple me (fun _ => True)
      (checkIntent kind current step proposalRef context) (Returns (Confirms step)) := by
  have unknown : (verifyDiscipline intents).Triple me (fun _ => True)
      (pure (.returned { snapshot := current })) (Returns (Confirms step)) :=
    triple_pure fun _ _ _ _ _ other => nomatch other
  cases kind with
  | resolver =>
    refine triple_working_bind stable_true (working (only_invoke trivial)) fun answer => ?_
    split
    · exact triple_raise fun _ _ _ => trivial
    · exact unknown
    · exact triple_verifyCompensation
  | verifier =>
    unfold checkIntent
    dsimp only
    split
    · exact unknown
    split
    · exact triple_returned incomplete_only
    split
    · exact triple_returned incomplete_only
    · exact triple_verifyCompensation

/-- The events are on record, and these intents are verified. -/
private def Checked (events checked : List ProcessEvent) (w : World) : Prop :=
  (∀ e ∈ events, e ∈ w.process.journal) ∧ ∀ e ∈ checked, CompensationVerified w (compensated e)

variable {events : List ProcessEvent}

private theorem stable_checked {checked : List ProcessEvent} :
    (verifyDiscipline intents).Stable (Checked events checked) :=
  stable_of_grows fun known grows =>
    ⟨fun e mem => grows.mem_journal (known.1 e mem), fun e mem => (known.2 e mem).grows grows⟩

/-- What the verification of the intents is good for. -/
private def Passes (events : List ProcessEvent) (result : CompensationResult ⊕ VerifiedIntents)
    (w : World) : Prop :=
  result.isRight → ∀ e ∈ events, CompensationVerified w (compensated e)

private theorem triple_stopped {reason : String} :
    (verifyDiscipline intents).Triple me F (.inl <$> incomplete snapshot reason)
      (Returns (Passes events)) :=
  triple_map ((triple_done incomplete_only).mono (fun _ _ => id) fun r _ _ _ => by
    cases r with
    | ok _ => exact fun isRight => nomatch isRight
    | error _ => trivial)

/-- **The verification goes through the intents one by one**; it comes to its end only
where each of them was accepted. -/
private theorem triple_verifyIntents
    {current : ProcessSnapshot} (verified : VerifiedIntents) (checked rest : List ProcessEvent)
    (starts : ∀ e ∈ rest, e ∈ events ∧ e.kind = .compensationStarted) :
    (verifyDiscipline intents).Triple me (Checked events checked)
      (verifyIntents c events context current verified rest)
      (Returns (Passes (checked ++ rest))) := by
  induction rest generalizing checked verified with
  | nil =>
    refine triple_pure fun w _ known _ => ?_
    rw [List.append_nil]
    exact known.2
  | cons event rest ih =>
    unfold verifyIntents
    dsimp only
    split
    · exact triple_stopped
    split
    · exact triple_stopped
    rename_i kind _ proposed
    -- a compensation with a reference was dispatched
    have dispatched : ∃ e ∈ events, e.kind = .compensationDispatched ∧
        compensated e = compensated event := by
      rcases found : compensationDispatch events (compensated event) with _ | e
      · rw [found] at proposed; exact absurd strip_empty proposed
      have mem := List.mem_of_getLast? found
      rw [List.mem_filter, decide_eq_true_eq] at mem
      exact ⟨e, mem⟩
    refine triple_seq _ (Triple.frame_returns (triple_rescue triple_checkIntent fun _ => ?_)
      stable_checked) fun check => ?_
    · exact triple_pure fun _ _ _ _ _ other => by cases other
    split
    · exact triple_pure fun _ _ _ isRight => by cases isRight
    · exact triple_stopped
    · exact triple_stopped
    · exact triple_stopped
    · exact triple_stopped
    rw [List.append_cons checked event rest]
    refine Triple.pre (F := Checked events (checked ++ [event])) (ih _ _
      fun e mem => starts e (List.mem_cons_of_mem _ mem))
      fun w _ known => ⟨known.2.1, fun e mem => ?_⟩
    rcases List.mem_append.1 mem with before | isEvent
    · exact known.2.2 e before
    obtain rfl := List.mem_singleton.1 isEvent
    obtain ⟨recorded, started⟩ := starts e List.mem_cons_self
    obtain ⟨d, mem, isDispatch, same⟩ := dispatched
    exact ⟨⟨e, known.2.1 e recorded, started, rfl⟩,
      ⟨d, known.2.1 d mem, isDispatch, same⟩, known.1 _ _ rfl⟩

/-- **A replica that resumes keeps to the permitted calls.** -/
private theorem triple_resumeCompensation : (verifyDiscipline intents).Triple me (fun _ => True)
      (resumeCompensation c snapshot context) (Returns fun _ _ => True) := by
  refine triple_call stable_true (fun _ _ _ => .working (.aside trivial))
    (fun events w => intentEvents events = intents ∧ Checked events [] w)
    (fun w events w' inv _ answered _ => ?_) fun (events : List ProcessEvent) => ?_
  · obtain ⟨rfl, rfl⟩ := answered.readEvents
    exact ⟨inv.recorded, fun _ => id, fun _ mem => nomatch mem⟩
  have stable : (verifyDiscipline intents).Stable fun w =>
      intentEvents events = intents ∧ Checked events [] w :=
    (stable_const _).and stable_checked
  dsimp only
  split
  · exact triple_done incomplete_only
  rename_i some_
  refine triple_seq _ ((triple_healReleasedRecovery fun _ => triple_heal).frame_returns stable)
    fun healed => ?_
  refine Triple.pre (F := fun w => intentEvents events = intents ∧ Checked events [] w) ?_
    fun _ _ known => known.2
  split
  · exact triple_done (by trivial)
  refine triple_working_bind stable (dispatchIntents_only _ _) fun dispatched => ?_
  split
  · exact triple_done (by trivial)
  have starts : ∀ e ∈ intentEvents events, e ∈ events ∧ e.kind = .compensationStarted :=
    fun e mem => by simpa [intentEvents] using mem
  refine triple_seq (fun verified w => verified.isRight → AllVerified intents w) ?_
    fun verified => ?_
  · intro w holds known
    have nonempty : intents ≠ [] := fun none => some_ (known.1.trans none)
    refine ((triple_verifyIntents {} [] _ starts).mono (fun _ _ => id) ?_) w holds known.2
    intro r w' _ passes
    cases r with
    | ok r =>
      refine fun isRight => ⟨nonempty, ?_⟩
      rw [← known.1]
      exact passes isRight
    | error _ => trivial
  split
  · exact triple_done (by trivial)
  · exact (triple_settled closeCompensation_only).pre fun _ _ all => all rfl

private theorem triple_takeUp :
    (verifyDiscipline intents).Triple me (fun _ => True) (takeUpCompensation c context)
      (Returns fun _ _ => True) :=
  triple_takeUpCompensation fun _ => triple_resumeCompensation

end Verifying

/-! ## Starting -/

/-- The calls of a replica that starts a compensation. -/
inductive Starting : WorkflowOp → Prop where
  | working {op : WorkflowOp} (isWorking : Working op) : Starting op
  | record {revision : ℕ} {intent : CompensationIntent} {recordedAt : Instant} {seenHold : ℕ} :
      Starting (.transition revision .compensating (compensationStep intent.step)
        (compensationStartedEvent intent.step intent.actionType intent.params recordedAt)
        seenHold)

section Start

variable {c : CompensationCoordinator} {snapshot : ProcessSnapshot}
  {compensations : List (StepId × String)}

private theorem starting {α : Type} {p : Flow α} (only : Only Working p) : Only Starting p :=
  only.mono fun _ => .working

private theorem startIntents_only {events : List ProcessEvent} (current : ProcessSnapshot)
    (steps : List StepId) : Only Starting (startIntents c events compensations current steps) := by
  induction steps generalizing current with
  | nil => trivial
  | cons step rest ih =>
    unfold startIntents
    split
    · exact starting incomplete_only
    refine only_bind ?_ fun recorded => ?_
    · refine only_bind (starting (working (only_invoke trivial))) fun _ => ?_
      refine only_bind (starting (working (only_invoke trivial))) fun recordedAt => ?_
      refine only_bind (only_invoke .record) fun answer => ?_
      split <;> trivial
    refine only_bind (starting dispatchIntent_only) fun dispatched => ?_
    split
    · trivial
    · exact ih _

theorem startCompensation_only : Only Starting (startCompensation c snapshot compensations) := by
  refine only_bind (starting (working (only_invoke trivial))) fun events => ?_
  dsimp only
  split
  · trivial
  split
  · exact starting (only_map incomplete_only)
  split
  · exact starting (only_map incomplete_only)
  · exact only_map (startIntents_only _ _)

end Start

/-- What a `start` keeps. -/
structure StartInv (w₀ w : World) : Prop where
  grows : Grows w₀ w
  uncompensated : isCompensated w = false
  unreleased : Unreleased w

private theorem StartInv.kept {w₀ w w' : World} {op : WorkflowOp} {a : WorkflowAns op}
    {ok : World → WorkflowOp → Prop} (inv : StartInv w₀ w) (isStarting : Starting op)
    (answered : Answered ok w op a w') : StartInv w₀ w' := by
  have grows := inv.grows.trans answered.grows
  cases isStarting with
  | working isWorking =>
    refine ⟨grows, ?_, fun attempt effectClaim holdRevision => ?_⟩
    · rcases answered.working_process isWorking with
        same | ⟨_, _, _, -, failed, -⟩ | ⟨_, _, _, _, same, -⟩
      · rw [isCompensated, same]
        exact inv.uncompensated
      · rw [isCompensated, failed]
        rfl
      · rw [isCompensated, same]
        exact inv.uncompensated
    · have same : w'.records.read (.lookup attempt effectClaim holdRevision) =
          w.records.read (.lookup attempt effectClaim holdRevision) :=
        answered.working_lookup isWorking trivial (by simp)
      rw [same]
      exact inv.unreleased _ _ _
  | record =>
    refine ⟨grows, ?_, fun attempt effectClaim holdRevision => ?_⟩
    · rcases answered.transition with ⟨_, -, rfl⟩ | ⟨_, -, -, -, rfl⟩ | ⟨-, _, -, -, -, moved, -⟩
      · exact inv.uncompensated
      · exact inv.uncompensated
      · rw [isCompensated, moved]
        rfl
    · rw [answered.transition_records]
      exact inv.unreleased _ _ _

/-- A replica that starts the compensation of the process of `w₀`. -/
def startDiscipline (w₀ : World) : FlowDiscipline where
  permit _ _ := Starting
  ok _ _ := True
  inv := StartInv w₀
  kept allowed answered inv := inv.kept allowed answered

/-- The world a `start` leaves that is cut off after a number of its calls. -/
def interrupted (w : World) (call : CompensationStart) (oracles : List Oracle) : World :=
  ((workflowMachine startReplica).run (Machine.idle w)
    (.start call :: oracles.map (.advance 0))).world

theorem interrupted_inv {w : World} (uncompensated : isCompensated w = false)
    (unreleased : Unreleased w) (call : CompensationStart) (oracles : List Oracle) :
    StartInv w (interrupted w call oracles) :=
  (startDiscipline w).run_inv_of_triple
    (fun _ _ => (triple_only stable_true (fun _ isStarting _ _ _ => isStarting)
      startCompensation_only))
    ⟨Grows.refl w, uncompensated, unreleased⟩ (Machine.observes_true _ _ _)

/-- A process that is not being compensated: a replica that takes it up only reads it. -/
def settledDiscipline : FlowDiscipline where
  permit _ _ op := op = .getProcess .plain
  ok _ _ := True
  inv w := isCompensating w = false ∧ isCompensated w = false
  kept := by
    rintro _ w op a w' rfl answered inv
    obtain ⟨process, -⟩ := answered.quiet trivial
    rwa [isCompensating, isCompensated, process]

private theorem triple_settledProcess {me : ℕ} {c : CompensationCoordinator} {context : Context} :
    settledDiscipline.Triple me (fun _ => True) (takeUpCompensation c context)
      (Returns fun _ _ => True) := by
  refine triple_call stable_true (fun _ _ _ => rfl)
    (fun found _ => Option.filter (fun s => decide (ProcessSnapshot.status s = .compensating))
      found = none)
    (fun w found w' inv _ answered _ => ?_) fun (found : Option ProcessSnapshot) => ?_
  · obtain ⟨-, o, performed⟩ := answered
    obtain ⟨rfl, rfl⟩ := Prod.mk.inj performed
    refine Option.filter_eq_none_iff.2 fun snapshot found compensating => ?_
    have still := inv.1
    rw [isCompensating, found] at still
    exact absurd compensating (by simpa using still)
  intro w holds known
  rw [known]
  exact ⟨holds, trivial⟩

/-- **Resuming** keeps the intents on record, and ends the compensation only once all of them
are verified. -/
theorem resumed_inv {w : World} {intents : List ProcessEvent} (inv : VerifyInv intents w)
    (moves : List (Move (CompensationCoordinator × Context) Oracle)) :
    VerifyInv intents ((workflowMachine compensationReplica).run (Machine.idle w) moves).world :=
  (verifyDiscipline intents).run_inv_of_triple
    (fun _ _ => Verifying.triple_takeUp.mono (fun _ _ => id) fun _ _ _ _ => trivial)
    inv (Machine.observes_true _ _ _)

/-- A process that is not being compensated is not compensated by a replica that resumes. -/
theorem settled_uncompensated {w : World} (compensating : isCompensating w = false)
    (uncompensated : isCompensated w = false)
    (moves : List (Move (CompensationCoordinator × Context) Oracle)) :
    isCompensated ((workflowMachine compensationReplica).run (Machine.idle w) moves).world =
      false :=
  (settledDiscipline.run_inv_of_triple
    (fun _ _ => triple_settledProcess.mono (fun _ _ => id) fun _ _ _ _ => trivial)
    ⟨compensating, uncompensated⟩ (Machine.observes_true _ _ _)).2

/-- **A compensated process has undone what it applied**, if its compensation was not cut
off between two intents. -/
theorem compensation_complete (w : World) (uncompensated : isCompensated w = false)
    (unreleased : Unreleased w) (call : CompensationStart) (oracles : List Oracle)
    (covered : IntentsCover (interrupted w call oracles))
    (moves : List (Move (CompensationCoordinator × Context) Oracle)) :
    isCompensated ((workflowMachine compensationReplica).run
      (Machine.idle (interrupted w call oracles)) moves).world →
      ∀ step ∈ appliedSteps w.process.journal,
        CompensationVerified ((workflowMachine compensationReplica).run
          (Machine.idle (interrupted w call oracles)) moves).world step := by
  intro compensated step applied
  have started := interrupted_inv uncompensated unreleased call oracles
  by_cases compensating : isCompensating (interrupted w call oracles)
  · have inv := resumed_inv (w := interrupted w call oracles)
      ⟨rfl, fun already => absurd (started.uncompensated.symm.trans already) Bool.false_ne_true,
        fun _ _ _ stored => by rw [started.unreleased] at stored; exact nomatch stored⟩ moves
    obtain ⟨nonempty, verified⟩ := inv.compensated compensated
    have applied' : step ∈ appliedSteps (interrupted w call oracles).process.journal :=
      ((started.grows.journal.filter _).filterMap _).subset applied
    obtain ⟨e, intent, rfl⟩ := (covered compensating).resolve_left nonempty step applied'
    exact verified e intent
  · rw [settled_uncompensated (by simpa using compensating) started.uncompensated] at compensated
    cases compensated

/-- The events of a step whose effect was verified. -/
private def appliedStep (step : StepId) : List ProcessEvent :=
  let event (kind : ProcessEventKind) (suffix : StepSuffix) (payload : EventPayload) :
      ProcessEvent :=
    { eventId := .step step 1 suffix, kind, idempotencyKey := .event (.step step 1 suffix)
      recordedAt := 0, stepId := some step, payload }
  [event .actionDispatched .dispatched { params := some [] }, event .stepCompleted .completed
      { reason := some "action_effect_verified", safeguardBundleDigest := some "bundle" }]

private def failingSnapshot : ProcessSnapshot :=
  { status := .failed, currentStep := "verify", updatedAt := 0, revision := 5 }

/-- Two steps were applied before the workflow failed. -/
private def failing : World :=
  { process :=
      { snapshot := some failingSnapshot
        journal := appliedStep "network" ++ appliedStep "disk"
        uncreated := by simp
        keys := by decide } }

private def undoBoth : CompensationStart :=
  { coordinator := { replica := 0 }
    snapshot := failingSnapshot
    compensations := [("network", "network.restore"), ("disk", "disk.restore")] }

/-- A replica that resumes is told that a step was undone. -/
private def toldUndone (steps : List StepId) : CompensationCoordinator × Context :=
  ({ replica := 0, outcomeVerifier := some .verifier }, steps.flatMap fun step =>
      [("compensation." ++ step ++ ".status", "verified"),
        ("compensation." ++ step ++ ".receipt_ref", "receipt"),
        ("compensation." ++ step ++ ".safeguard_bundle_digest", "bundle")])

/-- One replica resumes, and runs to its end. -/
private def resumeMoves (steps : List StepId) :
    List (Move (CompensationCoordinator × Context) Oracle) :=
  .start (toldUndone steps) :: List.replicate 12 (.advance 0 {})

/-- The start is cut off once the intent of the last applied step is dispatched; the resume
verifies it and completes the compensation. The first applied step was never undone. -/
theorem compensation_misses_step :
    ¬ ∀ w, isCompensated w = false → Unreleased w → ∀ call oracles moves,
      isCompensated ((workflowMachine compensationReplica).run
        (Machine.idle (interrupted w call oracles)) moves).world →
      ∀ step ∈ appliedSteps w.process.journal,
        CompensationVerified ((workflowMachine compensationReplica).run
          (Machine.idle (interrupted w call oracles)) moves).world step := by
  intro always
  obtain ⟨⟨e, started, isStart, same⟩, -⟩ := always failing rfl (fun _ _ _ => rfl) undoBoth
    (List.replicate 7 {}) (resumeMoves ["disk"]) (by decide +kernel) "network" (by decide +kernel)
  have never : ∀ e ∈ ((workflowMachine compensationReplica).run
      (Machine.idle (interrupted failing undoBoth (List.replicate 7 {})))
      (resumeMoves ["disk"])).world.process.journal,
      e.kind = .compensationStarted → compensated e ≠ "network" := by
    decide +kernel
  exact never e started isStart same

/-- The start runs to its end, and the first applied step is undone as well. -/
theorem compensation_complete_of_both :
    CompensationVerified ((workflowMachine compensationReplica).run
      (Machine.idle (interrupted failing undoBoth (List.replicate 13 {})))
      (resumeMoves ["disk", "network"])).world "network" :=
  compensation_complete failing rfl (fun _ _ _ => rfl) undoBoth (List.replicate 13 {})
    (by decide +kernel) (resumeMoves ["disk", "network"]) (by decide +kernel) "network"
    (by decide +kernel)

end Fdai.Core
