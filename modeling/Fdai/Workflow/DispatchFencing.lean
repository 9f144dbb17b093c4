import Fdai.Workflow.StepExecutor

/-!
# Dispatch claims fence replicas

Any number of replicas execute action steps over one process store: they read the
journal, claim generations, publish and record the dispatch, each call at a moment of the
scheduler's choosing, with clocks that need not agree, and any of them may crash.

* `DispatchPermit` — all that a replica writes, with what it knows when it does.
* `DispatchInv` — what the journal and the log keep under such writes.
* `Fenced` — the exclusion the claims are there for; `dispatch_fenced` proves it of every
  run.
-/

namespace Fdai.Core

open Fdai.Providers Fdai.Concurrency Program

/-- `e` claims generation `g` of a step and attempt. -/
structure IsClaim (e : ProcessEvent) (step : StepId) (attempt g : ℕ) : Prop where
  kind : e.kind = .actionDispatchClaimed
  stepId : e.stepId = some step
  ofAttempt : e.attempt = attempt
  generation : e.payload.generation = some g
  lease : e.payload.leaseExpiresAt.isSome
  key : e.idempotencyKey = .event (.step step attempt (.claim g))
  eventId : e.eventId = .step step attempt (.claim g)

theorem isClaim_claimEvent (step : StepId) (attempt g : ℕ) (proposalRef : String)
    (lease : ℕ) (now : Instant) :
    IsClaim (claimEvent step attempt g proposalRef lease now) step attempt g :=
  ⟨rfl, rfl, rfl, rfl, rfl, rfl, rfl⟩

/-- The claim was made before any dispatch of its step and attempt was recorded. -/
def Precedes (journal : List ProcessEvent) (claim : ProcessEvent) (step : StepId)
    (attempt : ℕ) : Prop :=
  ∀ pre d post, journal = pre ++ d :: post → ofStep .actionDispatched step attempt d → claim ∈ pre

/-- The journal holds the claim that generation `g + 1` follows on, with a lease that had
run out at `now`. -/
def FollowsExpired (journal : List ProcessEvent) (step : StepId) (attempt g : ℕ)
    (now : Instant) : Prop :=
  g = 0 ∨ ∃ prev ∈ journal, IsClaim prev step attempt g ∧ claimExpired prev now

variable {journal journal' : List ProcessEvent} {now : Instant}

theorem FollowsExpired.mono {step : StepId} {attempt g : ℕ} (grows : journal <+: journal') :
    FollowsExpired journal step attempt g now → FollowsExpired journal' step attempt g now := by
  rintro (first | ⟨prev, mem, isClaim, expired⟩)
  · exact .inl first
  · exact .inr ⟨prev, grows.subset mem, isClaim, expired⟩

variable {claim : ProcessEvent}

theorem Precedes.mono
    {step : StepId} {attempt : ℕ} (grows : journal <+: journal') (mem : claim ∈ journal)
    (precedes : Precedes journal claim step attempt) :
    Precedes journal' claim step attempt := by
  intro pre d post split isDispatch
  obtain ⟨rest, rfl⟩ := grows
  rw [List.append_eq_append_iff] at split
  rcases split with ⟨between, rfl, -⟩ | ⟨between, rfl, tail⟩
  · exact List.mem_append_left _ mem
  rcases between with _ | ⟨head, between'⟩
  · simpa using mem
  obtain ⟨rfl, -⟩ := List.cons.inj tail
  exact precedes pre d between' rfl isDispatch

/-- Where no dispatch is on record yet, every claim precedes it, and goes on to. -/
theorem Precedes.of_none
    {step : StepId} {attempt : ℕ} (grows : journal <+: journal') (mem : claim ∈ journal)
    (none : dispatchEvent journal step attempt = none) :
    Precedes journal' claim step attempt :=
  Precedes.mono grows mem fun _ d _ split isDispatch =>
    absurd isDispatch (List.find?_eq_none.1 none d (by simp [split]))

/-! ## What a replica writes -/

/-- Everything a replica that executes steps asks for: claims that follow on an expired
one, dispatches on record, publications under a claim of its own that came before any
dispatch, and otherwise events of other kinds. -/
def DispatchPermit (w : World) : WorkflowOp → Prop
  | .transition _ _ _ event _ =>
    event.kind ≠ .actionDispatchClaimed ∧ event.kind ≠ .actionDispatched
  | .appendEvent event (some _) => ∃ step attempt g proposalRef lease now,
      event = claimEvent step attempt (g + 1) proposalRef lease now ∧
        FollowsExpired w.process.journal step attempt g now
  | .appendEvent event none => Judging (.appendEvent event none) ∨
      ∃ step actionType attempt proposalRef params claim recordedAt,
        event = dispatchedEvent step actionType attempt proposalRef params claim recordedAt
  | .dispatch p => ∃ claim g, p.claim = some claim ∧ IsClaim claim p.stepId p.attempt (g + 1) ∧
      LogEvent.claimed claim p.replica ∈ w.log ∧ Precedes w.process.journal claim p.stepId p.attempt
  | op => Judging op

/-- What the journal and the log keep. -/
structure DispatchInv (w : World) : Prop where
  claims : ∀ c ∈ w.process.journal, c.kind = .actionDispatchClaimed → ∃ step attempt g,
    IsClaim c step attempt (g + 1) ∧ FollowsExpired w.process.journal step attempt g c.recordedAt
  dispatched : ∀ d ∈ w.process.journal, d.kind = .actionDispatched → ∀ step,
    d.stepId = some step → d.idempotencyKey = .event (.step step d.attempt .dispatched)
  claimants : ∀ c r, .claimed c r ∈ w.log → c ∈ w.process.journal ∧
    c.kind = .actionDispatchClaimed ∧ ∀ r', .claimed c r' ∈ w.log → r' = r
  published : ∀ p, .published p ∈ w.log → ∃ claim g, p.claim = some claim ∧
    IsClaim claim p.stepId p.attempt (g + 1) ∧ .claimed claim p.replica ∈ w.log ∧
      Precedes w.process.journal claim p.stepId p.attempt

variable {w' : World}

/-- An append of one of the two kinds of events keeps the journal's part. -/
private theorem DispatchInv.append {w : World} {event : ProcessEvent}
    {entries : List LogEvent} (inv : DispatchInv w)
    (fresh : ¬ w.process.recorded event.idempotencyKey)
    (journal : w'.process.journal = w.process.journal ++ [event])
    (log : w'.log = w.log ++ entries)
    (isClaim : event.kind = .actionDispatchClaimed → ∃ step attempt g,
      IsClaim event step attempt (g + 1) ∧
        FollowsExpired w.process.journal step attempt g event.recordedAt)
    (isDispatch : event.kind = .actionDispatched → ∀ step, event.stepId = some step →
      event.idempotencyKey = .event (.step step event.attempt .dispatched))
    (entry : ∀ e ∈ entries, event.kind = .actionDispatchClaimed ∧
      ∃ r, entries = [.claimed event r]) : DispatchInv w' := by
  have grows : w.process.journal <+: w'.process.journal := journal ▸ List.prefix_append _ _
  have unrecorded : ∀ e ∈ w.process.journal, e.idempotencyKey ≠ event.idempotencyKey :=
    fun e mem same => fresh (ProcessStore.recorded_iff.2 ⟨e, mem, same⟩)
  have known : ∀ e ∈ w'.process.journal, e ∈ w.process.journal ∨ e = event := by
    intro e mem
    rw [journal] at mem
    simpa using mem
  refine ⟨?_, ?_, ?_, ?_⟩
  · intro c mem kind
    rcases known c mem with old | rfl
    · obtain ⟨step, attempt, g, shape, follows⟩ := inv.claims c old kind
      exact ⟨step, attempt, g, shape, follows.mono grows⟩
    · obtain ⟨step, attempt, g, shape, follows⟩ := isClaim kind
      exact ⟨step, attempt, g, shape, follows.mono grows⟩
  · intro d mem kind step named
    rcases known d mem with old | rfl
    · exact inv.dispatched d old kind step named
    · exact isDispatch kind step named
  · intro c r mem
    rw [log] at mem
    rcases List.mem_append.1 mem with old | new
    · obtain ⟨inJournal, kind, only⟩ := inv.claimants c r old
      refine ⟨grows.subset inJournal, kind, fun r' mem' => ?_⟩
      rw [log] at mem'
      rcases List.mem_append.1 mem' with old' | new'
      · exact only r' old'
      obtain ⟨-, r'', single⟩ := entry _ new'
      rw [single] at new'
      obtain ⟨rfl, -⟩ := LogEvent.claimed.inj (List.mem_singleton.1 new')
      exact absurd rfl (unrecorded _ inJournal)
    · obtain ⟨kind, r'', single⟩ := entry _ new
      have isNew := new
      rw [single] at isNew
      obtain ⟨rfl, rfl⟩ := LogEvent.claimed.inj (List.mem_singleton.1 isNew)
      refine ⟨by rw [journal]; simp, kind, fun r' mem' => ?_⟩
      rw [log] at mem'
      rcases List.mem_append.1 mem' with old' | new'
      · exact absurd rfl (unrecorded _ (inv.claimants _ _ old').1)
      · rw [single] at new'
        exact (LogEvent.claimed.inj (List.mem_singleton.1 new')).2
  · intro p mem
    rw [log] at mem
    rcases List.mem_append.1 mem with old | new
    · obtain ⟨claim, g, held, shape, claimed, precedes⟩ := inv.published p old
      exact ⟨claim, g, held, shape, log ▸ List.mem_append_left _ claimed,
        precedes.mono grows (inv.claimants _ _ claimed).1⟩
    obtain ⟨-, r, single⟩ := entry _ new
    rw [single] at new
    cases List.mem_singleton.1 new

/-- **A permitted call keeps the invariant.** -/
theorem DispatchInv.kept {w : World} {op : WorkflowOp} {a : WorkflowAns op}
    (allowed : DispatchPermit w op) (answered : Answered (fun _ _ => True) w op a w')
    (inv : DispatchInv w) : DispatchInv w' := by
  have unchanged : w'.process = w.process → (∀ e ∈ w'.log, (∃ c r, e = .claimed c r) ∨
      (∃ p, e = .published p) → e ∈ w.log) → w.log <+: w'.log → DispatchInv w' := by
    intro process entries grows
    refine ⟨process ▸ inv.claims, process ▸ inv.dispatched, ?_, ?_⟩
    · intro c r mem
      obtain ⟨inJournal, kind, only⟩ := inv.claimants c r (entries _ mem (.inl ⟨c, r, rfl⟩))
      exact ⟨process ▸ inJournal, kind, fun r' mem' => only r' (entries _ mem' (.inl ⟨c, r', rfl⟩))⟩
    · intro p mem
      obtain ⟨claim, g, held, shape, claimed, precedes⟩ :=
        inv.published p (entries _ mem (.inr ⟨p, rfl⟩))
      exact ⟨claim, g, held, shape, grows.subset claimed, process ▸ precedes⟩
  have ofOtherKind {event : ProcessEvent} (fresh : ¬ w.process.recorded event.idempotencyKey)
      (journal : w'.process.journal = w.process.journal ++ [event]) (log : w'.log = w.log)
      (notClaim : event.kind ≠ .actionDispatchClaimed)
      (notDispatch : event.kind ≠ .actionDispatched) : DispatchInv w' :=
    inv.append fresh journal (log.trans (List.append_nil _).symm)
      (fun kind => absurd kind notClaim) (fun kind => absurd kind notDispatch) (by simp)
  cases op with
  | transition rev status step event seenHold =>
    rcases answered.transition with ⟨e, -, rfl⟩ | ⟨s, -, -, -, rfl⟩ |
      ⟨fresh, existing, -, -, -, -, journal, -, log, -⟩
    · exact inv
    · exact unchanged rfl (fun e mem _ => mem) List.prefix_rfl
    · exact ofOtherKind fresh journal log allowed.1 allowed.2
  | appendEvent event claimant =>
    rcases answered.appendEvent with ⟨rfl, -⟩ | ⟨fresh, -, -, journal, log, -, -⟩
    · exact inv
    cases claimant with
    | some replica =>
      obtain ⟨step, attempt, g, proposalRef, lease, now, rfl, follows⟩ := allowed
      refine inv.append fresh journal log (fun _ => ⟨step, attempt, g,
        isClaim_claimEvent step attempt (g + 1) proposalRef lease now, follows⟩) ?_ ?_
      · intro kind
        cases kind
      · intro e _
        exact ⟨rfl, replica, rfl⟩
    | none =>
      rcases allowed with branch |
        ⟨step, actionType, attempt, proposalRef, params, claim, recordedAt, rfl⟩
      · refine ofOtherKind fresh journal (log.trans (List.append_nil _)) ?_ ?_ <;>
          rcases branch with kind | kind | kind <;> simp [kind]
      refine inv.append fresh journal log ?_ ?_ (by simp)
      · intro kind
        cases kind
      · rintro - step' ⟨⟩
        rfl
  | dispatch p =>
    obtain rfl := answered.dispatch
    obtain ⟨claim, g, held, shape, claimed, precedes⟩ := allowed
    refine ⟨inv.claims, inv.dispatched, ?_, ?_⟩
    · intro c r mem
      obtain ⟨inJournal, kind, only⟩ := inv.claimants c r (by simpa using mem)
      exact ⟨inJournal, kind, fun r' mem' => only r' (by simpa using mem')⟩
    · intro q mem
      have cases : .published q ∈ w.log ∨ q = p := by simpa using mem
      rcases cases with old | rfl
      · obtain ⟨claim', g', held', shape', claimed', precedes'⟩ := inv.published q old
        exact ⟨claim', g', held', shape', List.mem_append_left _ claimed', precedes'⟩
      · exact ⟨claim, g, held, shape, List.mem_append_left _ claimed, precedes⟩
  | verifyOutcome step proposalRef outcome receiptRef =>
    rcases answered.verifyOutcome with ⟨-, rfl⟩ | ⟨-, rfl⟩
    · exact inv
    · refine unchanged rfl ?_ (List.prefix_append _ _)
      rintro e mem (⟨c, r, rfl⟩ | ⟨p, rfl⟩) <;> simpa using mem
  | createProcess | writeStateIfAbsent | compareAndSetState | compareAndSetGuarded
  | dispatchRecovery | reconcileRecovery => exact allowed.elim
  | _ =>
    obtain ⟨process, -, -, log⟩ := answered.quiet trivial
    exact unchanged process (fun e mem _ => log ▸ mem) (log ▸ List.prefix_rfl)

/-- Replicas that dispatch actions, side by side. -/
def dispatchDiscipline : FlowDiscipline :=
  { permit := fun _ => DispatchPermit, ok := fun _ _ => True, inv := DispatchInv
    kept := DispatchInv.kept }

/-- What holds of a claim once its append was answered with `true`. -/
structure Holds (w : World) (claim : ProcessEvent) (replica : ℕ) (step : StepId)
    (attempt : ℕ) : Prop where
  isClaim : ∃ g, IsClaim claim step attempt (g + 1)
  recorded : claim ∈ w.process.journal
  claimed : LogEvent.claimed claim replica ∈ w.log

theorem Holds.mono {w : World} {replica : ℕ} {step : StepId}
    {attempt : ℕ} (grows : Grows w w') (holds : Holds w claim replica step attempt) :
    Holds w' claim replica step attempt :=
  ⟨holds.isClaim, grows.mem_journal holds.recorded, grows.mem_log holds.claimed⟩

/-! ## What each function asks for -/

section Sat

open FlowDiscipline

variable {w : World} {me : ℕ} {α : Type} {replica : ℕ} {step : StepId} {attempt : ℕ}

/-- Nothing is claimed about the results of the replicas. -/
private abbrev Keeps (me : ℕ) (p : Flow α) (w : World) : Prop :=
  dispatchDiscipline.Sat me (fun _ _ => True) p w

/-- A check of a claim that is held. Where it succeeds the claim precedes any dispatch. -/
private theorem sat_claimIsCurrent {f : Bool → Flow α}
    (inv : DispatchInv w) (holds : Holds w claim replica step attempt)
    (h : ∀ current w', DispatchInv w' → Holds w' claim replica step attempt →
      (current = true → Precedes w'.process.journal claim step attempt) →
      Keeps me (f current) w') :
    Keeps me (claimIsCurrent claim step attempt >>= f) w := by
  rw [claimIsCurrent, Program.bind_assoc]
  refine sat_events inv (fun _ => trivial) fun w' grows inv' _ => ?_
  rw [Program.pure_bind]
  refine h _ w' inv' (holds.mono grows) fun current => ?_
  have none : dispatchEvent w'.process.journal step attempt = none := by
    simp only [isCurrent, Bool.and_eq_true, Option.isNone_iff_eq_none] at current
    exact current.1
  exact .of_none List.prefix_rfl (grows.mem_journal holds.recorded) none

/-- The claim a replica is about to append follows on an expired one. -/
private theorem followsExpired_latest (inv : DispatchInv w)
    (expired : ¬ (latestDispatchClaim w.process.journal step attempt).any
      fun claim => !claimExpired claim now) :
    FollowsExpired w.process.journal step attempt
      (claimGeneration (latestDispatchClaim w.process.journal step attempt)) now := by
  rcases latest : latestDispatchClaim w.process.journal step attempt with _ | claim
  · exact .inl rfl
  have isLast := List.mem_of_getLast? latest
  obtain ⟨mem, ofThis⟩ := List.mem_filter.1 isLast
  simp only [ofStep, decide_eq_true_eq] at ofThis
  obtain ⟨kind, named, ofAttempt⟩ := ofThis
  obtain ⟨step', attempt', g, shape, -⟩ := inv.claims claim mem kind
  obtain rfl : step' = step := Option.some.inj (shape.stepId.symm.trans named)
  obtain rfl : attempt' = attempt := shape.ofAttempt.symm.trans ofAttempt
  refine .inr ⟨claim, mem, ?_, ?_⟩
  · rw [claimGeneration, shape.generation]
    exact shape
  · simpa [latest] using expired

/-- **Claiming.** A claim that is returned is held by this replica. -/
private theorem sat_claimActionDispatch {proposalRef : String} {lease : ℕ}
    {f : Option ProcessEvent → Flow α} (inv : DispatchInv w)
    (h : ∀ claimed w', DispatchInv w' → (∀ claim ∈ claimed, Holds w' claim replica step attempt) →
      Keeps me (f claimed) w') :
    Keeps me (claimActionDispatch replica step attempt proposalRef lease now >>= f) w := by
  have nothing : ∀ w', DispatchInv w' → Keeps me (f none) w' :=
    fun w' inv' => h none w' inv' (by simp)
  rw [claimActionDispatch, Program.bind_assoc]
  refine sat_events inv (fun _ => trivial) fun w₁ _ inv₁ _ => ?_
  split
  · exact nothing w₁ inv₁
  dsimp only
  split
  · exact nothing w₁ inv₁
  rename_i expired
  have follows := followsExpired_latest inv₁ expired
  simp only [Flow.appendEvent, Program.bind_assoc]
  refine sat_ask inv₁ fun w₂ grows inv₂ =>
    ⟨⟨step, attempt, _, proposalRef, lease, now, rfl, follows.mono grows.journal⟩, ?_⟩
  intro a w₃ answered inv₃
  rcases a with e | appended
  · trivial
  rw [Program.pure_bind]
  rcases appended with _ | _
  · exact nothing w₃ inv₃
  rcases answered.appendEvent with ⟨-, refused⟩ | ⟨-, -, -, journal, log, -, -⟩
  · exact absurd rfl refused
  have holds : Holds w₃ _ replica step attempt :=
    { isClaim := ⟨_, isClaim_claimEvent step attempt _ proposalRef lease now⟩
      recorded := by rw [journal]; exact List.mem_append_right _ (List.mem_singleton_self _)
      claimed := by rw [log]; exact List.mem_append_right _ (List.mem_singleton_self _) }
  simp only [Bool.not_true, Bool.false_eq_true, if_false, Program.bind_assoc]
  refine sat_claimIsCurrent inv₃ holds fun current w₄ inv₄ holds₄ _ => ?_
  cases current with
  | false => exact nothing w₄ inv₄
  | true => exact h (some _) w₄ inv₄ (by simpa using holds₄)

private theorem judging_permitted (op : WorkflowOp) (judging : Judging op) (w : World) :
    DispatchPermit w op := by
  cases op with
  | transition | dispatch => exact judging.elim
  | appendEvent event claimant =>
    cases claimant with
    | none => exact .inl judging
    | some _ => exact judging.elim
  | _ => exact judging

private theorem sat_judging {β : Type} {p : Flow β} {f : β → Flow α} (inv : DispatchInv w)
    (only : Only Judging p) (h : ∀ b w', DispatchInv w' → Keeps me (f b) w') :
    Keeps me (p >>= f) w :=
  sat_only_bind inv judging_permitted only (fun b w' _ inv' => h b w' inv') fun _ _ _ _ => trivial

variable {ex : Executor} {handle : ProcessSnapshot} {runbookStep : RunbookStep}

private theorem sat_publishAction {f : RunbookStepResult → Flow α}
    (inv : DispatchInv w) (holds : Holds w claim ex.replica runbookStep.id ex.attempt)
    (precedes : Precedes w.process.journal claim runbookStep.id ex.attempt)
    (h : ∀ r w', DispatchInv w' → Keeps me (f r) w') :
    Keeps me (publishAction ex handle runbookStep claim >>= f) w := by
  rw [publishAction, Program.bind_assoc]
  refine sat_ask inv fun w₁ grows inv₁ => ⟨?_, fun answer w₂ _ inv₂ => ?_⟩
  · obtain ⟨g, shape⟩ := holds.isClaim
    exact ⟨claim, g, rfl, shape, grows.mem_log holds.claimed,
      precedes.mono grows.journal holds.recorded⟩
  rcases answer with exception | returnedRef
  · exact h _ w₂ inv₂
  dsimp only
  split
  · exact h _ w₂ inv₂
  rw [Program.bind_assoc]
  refine sat_now inv₂ (fun _ => trivial) fun recordedAt w₃ _ inv₃ => ?_
  simp only [recordActionDispatched, Flow.appendEvent, Program.bind_assoc]
  refine sat_ask inv₃ fun w₄ _ inv₄ => ⟨.inr ⟨_, _, _, _, _, _, _, rfl⟩, ?_⟩
  intro a w₅ _ inv₅
  rcases a with e | appended
  · trivial
  · exact h _ w₅ inv₅

private theorem sat_dispatchAction {f : RunbookStepResult × Option String → Flow α}
    (inv : DispatchInv w) (h : ∀ r w', DispatchInv w' → Keeps me (f r) w') :
    Keeps me (dispatchAction ex handle runbookStep >>= f) w := by
  rw [dispatchAction, Program.bind_assoc]
  refine sat_events inv (fun _ => trivial) fun w₁ _ inv₁ _ => ?_
  split
  · exact sat_judging inv₁ (settleAction_only _) h
  split
  · exact h _ w₁ inv₁
  simp only [Program.bind_assoc]
  refine sat_now inv₁ (fun _ => trivial) fun now w₂ _ inv₂ => ?_
  refine sat_claimActionDispatch inv₂ fun claimed w₃ inv₃ holds => ?_
  rcases claimed with _ | claim
  · exact h _ w₃ inv₃
  rw [Program.bind_assoc]
  refine sat_claimIsCurrent inv₃ (holds claim rfl) fun current w₄ inv₄ holds₄ precedes => ?_
  rcases current with _ | _
  · exact h _ w₄ inv₄
  simp only [Bool.not_true, Bool.false_eq_true, if_false, Program.bind_assoc]
  exact sat_publishAction inv₄ holds₄ (precedes rfl) fun r w₅ inv₅ => h _ w₅ inv₅

private theorem sat_judge {guardPassed : Option Bool}
    {f : RunbookStepResult × Option String → Flow α} (inv : DispatchInv w)
    (h : ∀ r w', DispatchInv w' → Keeps me (f r) w') :
    Keeps me (judge ex handle runbookStep guardPassed >>= f) w := by
  unfold judge
  split
  · exact h _ w inv
  rw [Program.bind_assoc]
  refine sat_judging inv (controlResult_only guardPassed) fun result w₁ inv₁ => ?_
  split
  · exact h _ w₁ inv₁
  split
  · exact h _ w₁ inv₁
  split
  · split
    · exact h _ w₁ inv₁
    · exact sat_dispatchAction inv₁ h
  · exact h _ w₁ inv₁

private theorem sat_stepTransition {kind : ProcessEventKind} {status : ProcessStatus}
    {suffix : StepSuffix} {payload : EventPayload} {f : ProcessSnapshot → Flow α}
    (inv : DispatchInv w) (other : kind ≠ .actionDispatchClaimed ∧ kind ≠ .actionDispatched)
    (h : ∀ handle' w', DispatchInv w' → Keeps me (f handle') w') :
    Keeps me (stepTransition ex handle kind status step suffix payload >>= f) w := by
  simp only [stepTransition, Flow.transition, Program.bind_assoc]
  refine sat_now inv (fun _ => trivial) fun recordedAt w₁ _ inv₁ => ?_
  refine sat_ask inv₁ fun w₂ _ inv₂ => ⟨other, fun a w₃ _ inv₃ => ?_⟩
  rcases a with e | handle'
  · trivial
  · exact h _ w₃ inv₃

/-- **A replica that executes a step keeps to the permitted calls.** -/
private theorem sat_execute {f : RunbookStepResult × ProcessSnapshot → Flow α}
    (inv : DispatchInv w) (h : ∀ r w', DispatchInv w' → Keeps me (f r) w') :
    Keeps me (execute ex runbookStep handle >>= f) w := by
  rw [execute, Program.bind_assoc]
  have only : Only Judging (cancellationBlocksNewStep runbookStep.id) :=
    only_bind (only_invoke trivial) fun _ => trivial
  refine sat_judging inv only fun blocked w₁ inv₁ => ?_
  split
  · exact h _ w₁ inv₁
  simp only [Program.bind_assoc]
  refine sat_stepTransition inv₁ (by decide) fun handle₁ w₂ inv₂ => ?_
  refine sat_judging inv₂ guardOf_only fun guardPassed w₃ inv₃ => ?_
  refine sat_judging inv₃ (only_invoke trivial) fun _ w₄ inv₄ => ?_
  refine sat_judge inv₄ fun judged w₅ inv₅ => ?_
  refine sat_stepTransition inv₅ (resultTransition_kind _ _) fun handle₂ w₆ inv₆ => ?_
  exact h _ w₆ inv₆

end Sat

/-! ## Every run -/

def executeAction (replica : ℕ) (call : Executor × RunbookStep × ProcessSnapshot) :
    Flow RunbookStepResult := do
  let (result, _) ← execute { call.1 with replica } call.2.1 call.2.2
  pure result

/-- Nothing was claimed, dispatched or published yet. -/
structure Undispatched (w : World) : Prop where
  journal : ∀ e ∈ w.process.journal, e.kind ≠ .actionDispatchClaimed ∧ e.kind ≠ .actionDispatched
  log : w.log = []

/-- What the claims are there for. -/
structure Fenced (w : World) : Prop where
  /-- A generation has one claim and one claimant. -/
  one_claimant : ∀ step attempt g c c' r r', IsClaim c step attempt g →
    IsClaim c' step attempt g → .claimed c r ∈ w.log → .claimed c' r' ∈ w.log → c = c' ∧ r = r'
  /-- An action is published by the claimant of a generation. -/
  by_claimant : ∀ p, .published p ∈ w.log → ∃ claim g, p.claim = some claim ∧
    IsClaim claim p.stepId p.attempt (g + 1) ∧ .claimed claim p.replica ∈ w.log
  /-- It is published under a later generation only where the lease of the one before had
  run out, by the clock the later one was claimed with. -/
  after_lease : ∀ p, .published p ∈ w.log → ∀ claim g, p.claim = some claim →
    IsClaim claim p.stepId p.attempt (g + 1) → 0 < g → ∃ prev ∈ w.process.journal,
      IsClaim prev p.stepId p.attempt g ∧
        ∃ expiresAt, prev.payload.leaseExpiresAt = some expiresAt ∧ expiresAt ≤ claim.recordedAt
  /-- A step and attempt has one dispatch on record. -/
  one_dispatched : ∀ step attempt,
    (w.process.journal.filter (ofStep .actionDispatched step attempt)).length ≤ 1
  /-- No claim that was obtained once the dispatch was on record is published under. -/
  no_late_claim : ∀ p, .published p ∈ w.log → ∀ claim, p.claim = some claim →
    Precedes w.process.journal claim p.stepId p.attempt

theorem Undispatched.inv {w : World} (fresh : Undispatched w) : DispatchInv w := by
  refine ⟨?_, ?_, ?_, ?_⟩
  · intro c mem kind
    exact absurd kind (fresh.journal c mem).1
  · intro d mem kind
    exact absurd kind (fresh.journal d mem).2
  · intro c r mem
    rw [fresh.log] at mem
    cases mem
  · intro p mem
    rw [fresh.log] at mem
    cases mem

/-- **The invariant gives the exclusion.** -/
theorem DispatchInv.fenced {w : World} (inv : DispatchInv w) : Fenced w := by
  refine ⟨?_, ?_, ?_, ?_, ?_⟩
  · intro step attempt g c c' r r' shape shape' mem mem'
    obtain ⟨inJournal, -, only⟩ := inv.claimants c r mem
    obtain ⟨inJournal', -, -⟩ := inv.claimants c' r' mem'
    obtain rfl := ProcessStore.eq_of_key inJournal inJournal' (shape.key.trans shape'.key.symm)
    exact ⟨rfl, (only r' mem').symm⟩
  · intro p mem
    obtain ⟨claim, g, held, shape, claimed, -⟩ := inv.published p mem
    exact ⟨claim, g, held, shape, claimed⟩
  · intro p mem claim g held shape later
    obtain ⟨claim', -, held', -, claimed, -⟩ := inv.published p mem
    obtain rfl : claim' = claim := Option.some.inj (held'.symm.trans held)
    obtain ⟨inJournal, kind, -⟩ := inv.claimants claim' p.replica claimed
    obtain ⟨step, attempt, g', shape', follows⟩ := inv.claims claim' inJournal kind
    obtain rfl : step = p.stepId := Option.some.inj (shape'.stepId.symm.trans shape.stepId)
    obtain rfl : attempt = p.attempt := shape'.ofAttempt.symm.trans shape.ofAttempt
    obtain rfl : g' = g := by
      have := Option.some.inj (shape'.generation.symm.trans shape.generation)
      omega
    rcases follows with rfl | ⟨prev, recorded, isClaim, expired⟩
    · cases later
    obtain ⟨expiresAt, lease⟩ := Option.isSome_iff_exists.1 isClaim.lease
    refine ⟨prev, recorded, isClaim, expiresAt, lease, ?_⟩
    simpa [claimExpired, lease] using expired
  · intro step attempt
    have shared : ∀ d ∈ w.process.journal, ofStep .actionDispatched step attempt d →
        d.idempotencyKey = .event (.step step attempt .dispatched) := by
      intro d mem isDispatch
      simp only [ofStep, decide_eq_true_eq] at isDispatch
      obtain ⟨kind, named, rfl⟩ := isDispatch
      exact inv.dispatched d mem kind step named
    exact ProcessStore.filter_length_le_one shared
  · intro p mem claim held
    obtain ⟨claim', -, held', -, -, precedes⟩ := inv.published p mem
    obtain rfl : claim' = claim := Option.some.inj (held'.symm.trans held)
    exact precedes

/-- **Claims fence replicas.** Whatever replicas execute which steps, however their calls
interleave, whatever their clocks show and wherever they crash. -/
theorem dispatch_fenced (w : World) (fresh : Undispatched w)
    (moves : List (Move (Executor × RunbookStep × ProcessSnapshot) Oracle)) :
    Fenced ((workflowMachine executeAction).run (Machine.idle w) moves).world := by
  have calls : ∀ replica call w, DispatchInv w →
      dispatchDiscipline.Sat replica (fun _ _ => True) (executeAction replica call) w :=
    fun _ _ _ inv => sat_execute inv fun _ _ _ => trivial
  have inv : DispatchInv _ := dispatchDiscipline.run_inv calls fresh.inv
    ((workflowMachine executeAction).observes_true (Machine.idle w) moves)
  exact inv.fenced

/-- A workflow of one action. -/
private def applyWorkflow : Workflow where
  schemaVersion := "1.0.0"
  name := "apply"
  version := "1.0.0"
  versioned := isBlank_version
  steps := [{ id := "apply", actionTypeRef := some "config.apply" }]

private def applyStep : RunbookStep := { id := "apply", actionType := "config.apply" }

/-- An enforced first attempt at the action. -/
private def applier : Executor :=
  { env := { workflow := applyWorkflow, actionTypes := [("config.apply", [])] }
    attempt := 1
    attempt_pos := Nat.one_pos
    context := []
    now := 0
    mode := .enforce
    params := fun _ => [] }

private def pendingApply : ProcessSnapshot :=
  { status := .pending, currentStep := "apply", updatedAt := 0, revision := 1 }

private def readyToApply : World :=
  { process := { snapshot := some pendingApply, journal := [], keys := List.nodup_nil } }

/-- The first replica publishes and crashes before it records the dispatch. The second,
whose clock is past the lease, publishes under the next generation and records it. -/
private def republished : List (Move (Executor × RunbookStep × ProcessSnapshot) Oracle) :=
  [.start (applier, applyStep, pendingApply)] ++ List.replicate 11 (.advance 0 {}) ++
    [.crash 0, .start (applier, applyStep, { pendingApply with revision := 2 })] ++
    List.replicate 15 (.advance 1 { now := 40 })

/-- Both replicas publish, under generations one and two, and one dispatch is recorded. -/
theorem dispatch_fenced_republished : Undispatched readyToApply ∧
      (((workflowMachine executeAction).run (Machine.idle readyToApply)
        republished).world.log.filterMap fun
          | .published p => p.claim.bind (·.payload.generation)
          | _ => none) = [1, 2] ∧
      Fenced ((workflowMachine executeAction).run (Machine.idle readyToApply) republished).world :=
  have fresh : Undispatched readyToApply := ⟨by simp [readyToApply], rfl⟩
  ⟨fresh, by decide +kernel, dispatch_fenced readyToApply fresh republished⟩

end Fdai.Core
