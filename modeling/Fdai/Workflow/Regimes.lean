import Fdai.Concurrency.Triple
import Fdai.Workflow.Calls

/-!
# Programs of the workflow core under a regime

How calls are answered, as facts about worlds. Every call lets the journal, the log and
the snapshots on record grow; a call that only reads or asks leaves the world as it is.
-/

namespace Fdai.Core

open Fdai.Providers Fdai.Concurrency Program

/-- The component whose requests run `program`. -/
def workflowMachine {Call α : Type} (program : ℕ → Call → Flow α) :
    Machine WorkflowOp WorkflowAns World WorkflowError α Call Oracle :=
  { perform, program }

/-- A call was answered, and `ok` held when it was made. -/
def Answered (ok : World → WorkflowOp → Prop) (w : World) (op : WorkflowOp)
    (a : WorkflowAns op) (w' : World) : Prop :=
  ok w op ∧ ∃ o, perform o w op = (a, w')

variable {ok : World → WorkflowOp → Prop} {w w' : World}

/-! ## Growth -/

/-- What was on record stays on record. -/
structure Grows (w w' : World) : Prop where
  journal : w.process.journal <+: w'.process.journal
  log : w.log <+: w'.log
  past : w.past <+: w'.past
  issued : w.issued <+: w'.issued

/-- A part of the world that a call leaves as it is. -/
private abbrev same {α : Type} {l : List α} : l <+: l := List.prefix_rfl

theorem Grows.refl (w : World) : Grows w w := ⟨same, same, same, same⟩

theorem Grows.trans {w₁ w₂ w₃ : World} (h : Grows w₁ w₂) (h' : Grows w₂ w₃) : Grows w₁ w₃ :=
  ⟨h.journal.trans h'.journal, h.log.trans h'.log, h.past.trans h'.past, h.issued.trans h'.issued⟩

theorem Grows.issued_eq {token : Token} {replica : ℕ} (h : Grows w w')
    (issued : w.issued[token]? = some replica) : w'.issued[token]? = some replica := by
  obtain ⟨rest, more⟩ := h.issued
  rw [← more, List.getElem?_append_left (List.getElem?_eq_some_iff.1 issued).1, issued]

theorem Grows.mem_journal {e : ProcessEvent} (h : Grows w w') (mem : e ∈ w.process.journal) :
    e ∈ w'.process.journal := h.journal.subset mem

theorem Grows.mem_log {e : LogEvent} (h : Grows w w') (mem : e ∈ w.log) : e ∈ w'.log :=
  h.log.subset mem

variable {event : ProcessEvent}

private theorem create_grows {snapshot : ProcessSnapshot}
    (s : ProcessStore) : s.journal <+: (s.create snapshot event).2.journal := by
  unfold ProcessStore.create
  cases current : s.snapshot with
  | none =>
    rw [s.uncreated current]
    exact List.nil_prefix
  | some _ => exact List.prefix_rfl

private theorem transition_grows (rev : ℕ) (status : ProcessStatus) (step : StepId)
    (event : ProcessEvent) (s : ProcessStore) :
    s.journal <+: (s.transition rev status step event).2.journal := by
  rcases ProcessStore.transition_cases (s := s) (Prod.eta _).symm with
    ⟨same, -⟩ | ⟨same, -⟩ | ⟨_, _, -, -, -, moved⟩
  · exact same.symm ▸ List.prefix_rfl
  · exact same.symm ▸ List.prefix_rfl
  · exact moved.symm ▸ List.prefix_append _ _

private theorem appendEvent_grows (s : ProcessStore) :
    s.journal <+: (s.appendEvent event).2.journal := by
  rcases ProcessStore.appendEvent_cases (s := s) (Prod.eta _).symm with
    ⟨same, -⟩ | ⟨_, _, -, -, moved⟩
  · exact same.symm ▸ List.prefix_rfl
  · exact moved.symm ▸ List.prefix_append _ _

/-- **Every call only adds.** -/
theorem perform_grows (o : Oracle) (w : World) (op : WorkflowOp) : Grows w (perform o w op).2 := by
  have logged (more : List LogEvent) : w.log <+: w.log ++ more := List.prefix_append _ _
  cases op with
  | createProcess snapshot event =>
    exact ⟨create_grows w.process, same, List.prefix_append _ _, same⟩
  | transition rev status step event _ =>
    have grows := transition_grows rev status step event w.process
    simp only [perform, World.transitioned]
    cases (w.process.transition rev status step event).1 with
    | ok _ => exact ⟨grows, same, List.prefix_append _ _, same⟩
    | error _ => exact ⟨grows, same, same, same⟩
  | appendEvent event claimant => exact ⟨appendEvent_grows w.process, logged _, same, same⟩
  | dispatch _ | dispatchRecovery _ _ _ | reconcileRecovery _ _ | compareAndSetState _ _ _ _ =>
    exact ⟨same, logged _, same, same⟩
  | newToken _ => exact ⟨same, same, same, List.prefix_append _ _⟩
  | writeStateIfAbsent _ _ => exact ⟨same, same, same, same⟩
  | verifyOutcome step proposalRef outcome receiptRef =>
    simp only [perform]
    rcases o.verifyOutcome with _ | _ | _
    · exact Grows.refl w
    · exact Grows.refl w
    · exact ⟨same, logged _, same, same⟩
  | compareAndSetGuarded key value rev approval =>
    simp only [perform]
    split
    · exact ⟨same, logged _, same, same⟩
    · exact ⟨same, same, same, same⟩
  | _ => exact Grows.refl w

variable {op : WorkflowOp}

theorem Answered.grows {a : WorkflowAns op} (h : Answered ok w op a w') : Grows w w' := by
  obtain ⟨-, o, performed⟩ := h
  have := perform_grows o w op
  rwa [performed] at this

/-- Calls that write no store and reach nothing the log keeps. -/
def Quiet : WorkflowOp → Prop
  | .createProcess _ _ | .transition _ _ _ _ _ | .appendEvent _ _ | .writeStateIfAbsent _ _
  | .compareAndSetState _ _ _ _ | .compareAndSetGuarded _ _ _ _ | .dispatch _
  | .dispatchRecovery _ _ _ | .reconcileRecovery _ _ | .verifyOutcome _ _ _ _ => False
  | _ => True

/-- A quiet call changes at most the supply of tokens. -/
theorem Answered.quiet {a : WorkflowAns op} (h : Answered ok w op a w') (quiet : Quiet op) :
    w'.process = w.process ∧ w'.past = w.past ∧ w'.records = w.records ∧ w'.log = w.log := by
  obtain ⟨-, o, performed⟩ := h
  cases op with
  | createProcess | transition | appendEvent | writeStateIfAbsent | compareAndSetState
  | compareAndSetGuarded | dispatch | dispatchRecovery | reconcileRecovery | verifyOutcome =>
    exact quiet.elim
  | _ =>
    obtain ⟨-, rfl⟩ := Prod.mk.inj performed
    exact ⟨rfl, rfl, rfl, rfl⟩

/-! ## Answers -/

theorem Answered.readEvents {purpose : Purpose} {a : List ProcessEvent}
    (h : Answered ok w (.readEvents purpose) a w') : a = w.process.journal ∧ w' = w := by
  obtain ⟨-, o, performed⟩ := h
  obtain ⟨rfl, rfl⟩ := Prod.mk.inj performed
  exact ⟨rfl, rfl⟩

/-- **What an append can come to.** -/
theorem Answered.appendEvent {claimant : Option ℕ} {a : Except ProcessRuntimeError Bool}
    (h : Answered ok w (.appendEvent event claimant) a w') :
    (w' = w ∧ a ≠ .ok true) ∨ (¬ w.process.recorded event.idempotencyKey ∧ a = .ok true ∧
        w'.process.snapshot = w.process.snapshot ∧
        w'.process.journal = w.process.journal ++ [event] ∧
        w'.log = w.log ++ claimant.toList.map (.claimed event) ∧
        w'.past = w.past ∧ w'.records = w.records) := by
  obtain ⟨-, o, performed⟩ := h
  simp only [perform] at performed
  obtain ⟨rfl, rfl⟩ := Prod.mk.inj performed
  rcases ProcessStore.appendEvent_cases (s := w.process) (Prod.eta _).symm with
    ⟨same, refused⟩ | ⟨fresh, existing, current, appended, moved⟩
  · refine .inl ⟨?_, refused⟩
    have unlogged : claimed event claimant (w.process.appendEvent event).1 = [] := by
      cases answer : (w.process.appendEvent event).1 with
      | error _ => rfl
      | ok b => cases b with
        | false => rfl
        | true => exact absurd answer refused
    rw [same, unlogged, List.append_nil]
  · refine .inr ⟨fresh, appended, ?_, ?_, ?_, rfl, rfl⟩
    · rw [moved, current]; rfl
    · rw [moved]; rfl
    · rw [appended]; rfl

variable {rev : ℕ}

/-- **What a transition can come to.** A duplicate is answered with the snapshot of the
moment; only the last case writes. -/
theorem Answered.transition {status : ProcessStatus} {step : StepId} {seenHold : ℕ}
    {a : Except ProcessRuntimeError ProcessSnapshot}
    (h : Answered ok w (.transition rev status step event seenHold) a w') :
    (∃ e, a = .error e ∧ w' = w) ∨
      (∃ s, w.process.recorded event.idempotencyKey ∧ w.process.snapshot = some s ∧ a = .ok s ∧
        w' = { w with past := w.past ++ [s] }) ∨
      (¬ w.process.recorded event.idempotencyKey ∧ ∃ existing,
        w.process.snapshot = some existing ∧ existing.revision = rev ∧
        a = .ok (ProcessStore.advanced existing status step event) ∧
        w'.process.snapshot = some (ProcessStore.advanced existing status step event) ∧
        w'.process.journal = w.process.journal ++ [event] ∧
        w'.past = w.past ++ [ProcessStore.advanced existing status step event] ∧
        w'.log = w.log ∧ w'.records = w.records) := by
  obtain ⟨-, o, performed⟩ := h
  simp only [perform, World.transitioned] at performed
  obtain ⟨rfl, rfl⟩ := Prod.mk.inj performed
  rcases ProcessStore.transition_cases (s := w.process) (Prod.eta _).symm with
    ⟨same, e, refused⟩ | ⟨same, duplicate, s, current, repeated⟩ |
      ⟨fresh, existing, current, expected, moved, store⟩
  · exact .inl ⟨e, refused, by rw [refused, same]⟩
  · exact .inr (.inl ⟨s, duplicate, current, repeated, by rw [repeated, same]⟩)
  · refine .inr (.inr ⟨fresh, existing, current, expected, moved, ?_⟩)
    rw [moved, store]
    exact ⟨rfl, rfl, rfl, rfl, rfl⟩

variable {key : StateKey}

theorem Answered.readState {a : Option (StateRecord key)}
    (h : Answered ok w (.readState key) a w') : a = w.records.read key ∧ w' = w := by
  obtain ⟨-, o, performed⟩ := h
  obtain ⟨rfl, rfl⟩ := Prod.mk.inj performed
  exact ⟨rfl, rfl⟩

theorem Answered.findLookup {attempt : Digest} {a : Option ReleaseReceiptLookup}
    (h : Answered ok w (.findLookup attempt) a w') :
    a = w.records.findLookup attempt ∧ w' = w := by
  obtain ⟨-, o, performed⟩ := h
  obtain ⟨rfl, rfl⟩ := Prod.mk.inj performed
  exact ⟨rfl, rfl⟩

/-- **What a compare-and-set can come to.** -/
theorem Answered.compareAndSetState {value : StateRecord key}
    {hand : Hand} {a : Bool} (h : Answered ok w (.compareAndSetState key value rev hand) a w') :
    (a = false ∧ w' = w) ∨ (a = true ∧ (∃ stored, w.records.read key = some stored ∧
          recordRevision key stored = rev) ∧
        w' = { w with
          records := w.records.write key value
          log := w.log ++ written w.records key value hand }) := by
  obtain ⟨-, o, performed⟩ := h
  simp only [perform] at performed
  obtain ⟨rfl, rfl⟩ := Prod.mk.inj performed
  rcases StateStore.compareAndSet_cases
      (Prod.eta (w.records.compareAndSet recordRevision key value rev)).symm with
    ⟨refused, same⟩ | ⟨committed, wrote, stored, found, current⟩
  · exact .inl ⟨refused, by rw [refused, same]; simp⟩
  · exact .inr ⟨committed, ⟨stored, found, current⟩, by rw [committed, wrote]; rfl⟩

theorem Answered.newToken {replica : ℕ} {a : Token} (h : Answered ok w (.newToken replica) a w') :
    a = w.issued.length ∧ w' = { w with issued := w.issued ++ [replica] } := by
  obtain ⟨-, o, performed⟩ := h
  obtain ⟨rfl, rfl⟩ := Prod.mk.inj performed
  exact ⟨rfl, rfl⟩

theorem Answered.dispatchRecovery {attempt : RecoveryAttemptIdentity}
    {claim : RecoveryPreDispatchClaim} {owner : Token} {a : Except Unit RecoveryDispatchResult}
    (h : Answered ok w (.dispatchRecovery attempt claim owner) a w') :
    w' = { w with log := w.log ++ [.recoveryInvoked owner a.toOption] } := by
  obtain ⟨-, o, performed⟩ := h
  obtain ⟨rfl, rfl⟩ := Prod.mk.inj performed
  rfl

theorem Answered.reconcileRecovery {attempt : RecoveryAttemptIdentity}
    {claim : RecoveryPreDispatchClaim} {a : Except Unit (Option RecoveryDispatchResult)}
    (h : Answered ok w (.reconcileRecovery attempt claim) a w') :
    w' = { w with log := w.log ++ [.recoveryReconciled (a.toOption.bind id)] } := by
  obtain ⟨-, o, performed⟩ := h
  obtain ⟨rfl, rfl⟩ := Prod.mk.inj performed
  rfl

theorem Answered.dispatch {publication : Publication} {a : Except String String}
    (h : Answered ok w (.dispatch publication) a w') :
    w' = { w with log := w.log ++ [.published publication] } := by
  obtain ⟨-, o, performed⟩ := h
  exact (Prod.mk.inj performed).2.symm

theorem Answered.verifyOutcome {step : StepId} {proposalRef : String} {outcome : ActionOutcome}
    {receiptRef : String} {a : Except Unit Bool}
    (h : Answered ok w (.verifyOutcome step proposalRef outcome receiptRef) a w') :
    (a ≠ .ok true ∧ w' = w) ∨
      (a = .ok true ∧ w' = { w with log := w.log ++ [.verified step proposalRef outcome] }) := by
  obtain ⟨-, o, performed⟩ := h
  simp only [perform] at performed
  split at performed
  · obtain ⟨rfl, rfl⟩ := Prod.mk.inj performed
    exact .inr ⟨rfl, rfl⟩
  rename_i other
  obtain ⟨rfl, rfl⟩ := Prod.mk.inj performed
  exact .inl ⟨other, rfl⟩

/-! ## Disciplines -/

/-- Replicas of the workflow core that keep to a set of calls, and an invariant of them. -/
structure FlowDiscipline where
  permit : ℕ → World → WorkflowOp → Prop
  /-- What a run may be required to meet when a call is made. -/
  ok : World → WorkflowOp → Prop
  inv : World → Prop
  kept : ∀ {replica w op a w'}, permit replica w op → Answered ok w op a w' → inv w → inv w'

namespace FlowDiscipline

variable (D : FlowDiscipline)

/-- The discipline over the calls of the workflow core. -/
def toDiscipline : Discipline WorkflowOp WorkflowAns World :=
  { permit := D.permit, answers := Answered D.ok, inv := D.inv, kept := D.kept }

/-- What one replica must meet. -/
abbrev Sat (me : ℕ) {α : Type} (post : Except WorkflowError α → World → Prop) (p : Flow α)
    (w : World) : Prop := Program.Sat (D.toDiscipline.regime me) post p w

/-- What the surroundings of a replica may do. -/
abbrev Rely (me : ℕ) (w w' : World) : Prop := (D.toDiscipline.regime me).rely w w'

/-- What one replica must meet, from where `F` holds to where `G` does. -/
abbrev Triple (me : ℕ) {α : Type} (F : World → Prop) (p : Flow α)
    (G : Except WorkflowError α → World → Prop) : Prop := D.toDiscipline.Triple me F p G

/-- A fact no call makes false. -/
abbrev Stable (F : World → Prop) : Prop := D.toDiscipline.Stable F

variable {D} {me : ℕ} {α : Type} {post : Except WorkflowError α → World → Prop}

/-- The surroundings of a replica only add. -/
theorem grows_of_rely (h : D.Rely me w w') (holds : D.inv w) : Grows w w' :=
  (Discipline.rely_induction (D := D.toDiscipline) (F := Grows w)
    (fun _ _ _ answered grows => grows.trans (Answered.grows answered)) h holds
    (Grows.refl w)).2

/-- A fact that the calls of the others keep survives them. -/
theorem rely_fact {F : World → Prop}
    (kept : ∀ {other w op a w'}, other ≠ me → D.inv w → D.permit other w op →
      Answered D.ok w op a w' → F w → F w')
    (h : D.Rely me w w') (holds : D.inv w) (start : F w) : F w' :=
  (Discipline.rely_induction (D := D.toDiscipline) kept h holds start).2

/-- **One call of a replica.** Before it the surroundings have moved on; the call must be
permitted then, and the program goes on with the answer. -/
theorem sat_call {f : WorkflowAns op → Flow α} (holds : D.inv w)
    (h : ∀ w₁, D.Rely me w w₁ → D.inv w₁ → D.permit me w₁ op ∧
      ∀ a w₂, Answered D.ok w₁ op a w₂ → D.inv w₂ → D.Sat me post (f a) w₂) :
    D.Sat me post (Flow.ask op >>= f) w := by
  intro w₁ between
  have holds₁ : D.inv w₁ := Discipline.rely_inv (D := D.toDiscipline) between holds
  obtain ⟨allowed, continues⟩ := h w₁ between holds₁
  exact ⟨allowed, fun a w₂ answered =>
    continues a w₂ answered (D.kept allowed answered holds₁)⟩

/-- The same where all that matters of the surroundings is that they add. -/
theorem sat_ask {f : WorkflowAns op → Flow α} (holds : D.inv w)
    (h : ∀ w₁, Grows w w₁ → D.inv w₁ → D.permit me w₁ op ∧
      ∀ a w₂, Answered D.ok w₁ op a w₂ → D.inv w₂ → D.Sat me post (f a) w₂) :
    D.Sat me post (Flow.ask op >>= f) w :=
  sat_call holds fun w₁ between => h w₁ (grows_of_rely between holds)

theorem sat_events {purpose : Purpose} {f : List ProcessEvent → Flow α} (holds : D.inv w)
    (allowed : ∀ w, D.permit me w (.readEvents purpose))
    (h : ∀ w', Grows w w' → D.inv w' → D.ok w' (.readEvents purpose) →
      D.Sat me post (f w'.process.journal) w') :
    D.Sat me post (Flow.events purpose >>= f) w := by
  refine sat_ask holds fun w₁ grows holds₁ => ⟨allowed w₁, fun a w₂ answered holds₂ => ?_⟩
  obtain ⟨rfl, rfl⟩ := answered.readEvents
  exact h _ grows holds₂ answered.1

theorem sat_now {f : Instant → Flow α} (holds : D.inv w) (allowed : ∀ w, D.permit me w .now)
    (h : ∀ now w', Grows w w' → D.inv w' → D.Sat me post (f now) w') :
    D.Sat me post (Flow.now >>= f) w := by
  refine sat_ask holds fun w₁ grows _ => ⟨allowed w₁, fun now w₂ answered holds₂ => ?_⟩
  exact h now w₂ (grows.trans answered.grows) holds₂

/-- A compare-and-set: it leaves the world as it is, or it finds the expected revision and
writes. -/
theorem sat_compareAndSet {value : StateRecord key} {hand : Hand}
    {f : Bool → Flow α} (holds : D.inv w)
    (permitted : ∀ w₁, D.Rely me w w₁ → D.inv w₁ →
      D.permit me w₁ (.compareAndSetState key value rev hand))
    (refused : ∀ w₁, D.Rely me w w₁ → D.inv w₁ → D.Sat me post (f false) w₁)
    (committed : ∀ w₁ stored, D.Rely me w w₁ → D.inv w₁ → w₁.records.read key = some stored →
      recordRevision key stored = rev → D.ok w₁ (.compareAndSetState key value rev hand) →
      ∀ w₂, w₂ = { w₁ with
          records := w₁.records.write key value
          log := w₁.log ++ written w₁.records key value hand } →
        D.inv w₂ → D.Sat me post (f true) w₂) :
    D.Sat me post (Flow.compareAndSet key value rev hand >>= f) w := by
  refine sat_call holds fun w₁ between holds₁ =>
    ⟨permitted w₁ between holds₁, fun a w₂ answered holds₂ => ?_⟩
  have admitted := answered.1
  rcases answered.compareAndSetState with ⟨rfl, rfl⟩ | ⟨rfl, ⟨stored, found, current⟩, wrote⟩
  · exact refused _ between holds₁
  · exact committed w₁ stored between holds₁ found current admitted w₂ wrote holds₂

/-- A program that makes only calls that are always permitted. -/
theorem sat_only {allowed : WorkflowOp → Prop} {p : Flow α} (holds : D.inv w)
    (permitted : ∀ op, allowed op → ∀ w, D.permit me w op) (only : Program.Only allowed p) :
    D.Sat me (fun _ w' => Grows w w' ∧ D.inv w') p w :=
  Only.sat (F := fun w' => Grows w w' ∧ D.inv w') (fun op isAllowed w' _ => permitted op isAllowed w')
    (fun between h => ⟨h.1.trans (grows_of_rely between h.2),
      Discipline.rely_inv (D := D.toDiscipline) between h.2⟩)
    (fun {_ w₁ _ _} isAllowed answered h =>
      ⟨h.1.trans (Answered.grows answered), D.kept (permitted _ isAllowed w₁) answered h.2⟩)
    only ⟨Grows.refl w, holds⟩

/-- Going on after a program that makes only calls that are always permitted. -/
theorem sat_only_bind {β : Type} {allowed : WorkflowOp → Prop} {p : Flow β} {f : β → Flow α}
    (holds : D.inv w) (permitted : ∀ op, allowed op → ∀ w, D.permit me w op)
    (only : Program.Only allowed p)
    (h : ∀ b w', Grows w w' → D.inv w' → D.Sat me post (f b) w')
    (raised : ∀ e w', Grows w w' → D.inv w' → post (.error e) w') :
    D.Sat me post (p >>= f) w := by
  refine sat_bind ((sat_only holds permitted only).mono fun r w' reached => ?_)
  cases r with
  | ok b => exact h b w' reached.1 reached.2
  | error e => exact raised e w' reached.1 reached.2

/-- A program of the workflow core run by a pool of replicas. -/
theorem run_inv {Call : Type} {program : ℕ → Call → Flow α} {moves : List (Move Call Oracle)}
    (calls : ∀ replica call w, D.inv w → D.Sat replica (fun _ _ => True) (program replica call) w)
    (holds : D.inv w)
    (observes : (workflowMachine program).Observes D.ok (Machine.idle w) moves) :
    D.inv ((workflowMachine program).run (Machine.idle w) moves).world :=
  Machine.run_inv (D := D.toDiscipline) (fun answered => answered) calls holds observes

/-- The same, from triples about the programs. -/
theorem run_inv_of_triple {Call : Type} {program : ℕ → Call → Flow α}
    {moves : List (Move Call Oracle)}
    (calls : ∀ replica call, D.Triple replica (fun _ => True) (program replica call)
      fun _ _ => True)
    (holds : D.inv w)
    (observes : (workflowMachine program).Observes D.ok (Machine.idle w) moves) :
    D.inv ((workflowMachine program).run (Machine.idle w) moves).world :=
  Machine.run_inv_of_triple (D := D.toDiscipline) (fun answered => answered) calls holds observes

end FlowDiscipline

end Fdai.Core
