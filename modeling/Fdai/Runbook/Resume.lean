import Fdai.Runbook.Runner
import Fdai.Workflow.Compiler

/-!
# Re-entering an interrupted run

A process records the step it is at. When its host crashes, or a step parks the process,
a later run starts the runner at the recorded step.

* `script` — an executor whose outcomes are fixed in advance, which may be interrupted
  at one point: the host crashes there, or the step waits.
* `visited` — what a run that is not interrupted executes, and where it ends.
* `walk_script`, `walk_interrupted` — the runner against these: what is on record after a
  run, whole or interrupted.
* `run_inOrder` — the steps of a run, in their order, and the fallback of the last one.
-/

namespace Fdai.Core

/-- What is on record about a run: the steps started so far, in order. The last one is
the process's current step. -/
abbrev Recorded := List StepId

/-- How a run is cut off. -/
inductive Interruption where
  /-- The host stops while the step is in progress. -/
  | crash
  /-- The step parks the process. -/
  | waiting

/-- Runs against a record; a crash keeps what was recorded. -/
abbrev ScriptM := ExceptT Unit (StateM Recorded)

/-- The outcome of every step once it finishes. -/
abbrev Outcomes := RunbookStep → RunbookStepOutcome

/-- The interruption of the step number `position`, if it is the interrupted one. -/
def interruptionAt (stop : Option (ℕ × Interruption)) (position : ℕ) : Option Interruption :=
  match stop with
  | none => none
  | some (n, kind) => if position = n then some kind else none

/-- How a started step ends. -/
def scriptAnswer (outcomes : Outcomes) (step : RunbookStep) :
    Option Interruption → ScriptM RunbookStepResult
  | none => pure { stepId := step.id, actionType := step.actionType, outcome := outcomes step }
  | some .waiting => pure { stepId := step.id, actionType := step.actionType, outcome := .waiting }
  | some .crash => throw ()

/-- The executor that records each step it starts, answers with the fixed outcomes and
is interrupted at the step number `stop`, if there is one. -/
def script (outcomes : Outcomes) (stop : Option (ℕ × Interruption)) (step : RunbookStep) :
    ScriptM RunbookStepResult := do
  let recorded ← get
  set (recorded ++ [step.id])
  scriptAnswer outcomes step (interruptionAt stop recorded.length)

namespace Runbook

variable (rb : Runbook) (outcomes : Outcomes)

/-- A run with fixed outcomes, interrupted at `stop` if at all: what it returns (`none`
after a crash or for an unknown start step) and what is on record after it. -/
def scripted (stop : Option (ℕ × Interruption)) (startStepId : Option StepId)
    (recorded : Recorded) : Option RunbookResult × Recorded :=
  let ports : RunbookPorts ScriptM :=
    { execute := fun _ => script outcomes stop, appendAuditEntry := fun _ => pure () }
  match (rb.run ports startStepId).run.run recorded with
  | (.ok result, recorded') => (result, recorded')
  | (.error _, recorded') => (none, recorded')

/-- What an uninterrupted walk over `steps` executes and the outcome it ends with. -/
def visited (startStepId : Option StepId) : List RunbookStep → List RunbookStep × RunbookStepOutcome
  | [] => ([], .success)
  | step :: rest =>
    if rb.passesOver startStepId step then visited startStepId rest
    else match outcomes step with
      | .waiting => ([step], .waiting)
      | .success =>
        (step :: (visited startStepId rest).1, (visited startStepId rest).2)
      | .failure | .skipped => (step :: (rb.fallbackOf step).toList, .failure)

/-- The steps a run from `start` executes. -/
def executed (stop : Option (ℕ × Interruption)) (start : StepId) : List StepId :=
  (rb.scripted outcomes stop (some start) []).2

/-- The outcome a run from `start` ends with. -/
def terminal (start : StepId) : Option RunbookStepOutcome :=
  (rb.scripted outcomes none (some start) []).1.map RunbookResult.terminalOutcome

end Runbook

/-! ## Running a script -/

section Script

variable {α β : Type} {outcomes : Outcomes} {stop : Option (ℕ × Interruption)}

theorem script_bind (p : ScriptM α) (f : α → ScriptM β) (r : Recorded) :
    (p >>= f).run.run r =
      match p.run.run r with
      | (.ok a, r') => (f a).run.run r'
      | (.error e, r') => (.error e, r') := by
  rw [ExceptT.run_bind, StateT.run_bind]
  rcases p.run.run r with ⟨_ | _, r'⟩ <;> rfl

/-- Rearranging a result records nothing. -/
theorem script_map (p : ScriptM α) (f : α → β) (r : Recorded) :
    ((p >>= fun a => pure (f a)).run.run r).2 = (p.run.run r).2 := by
  rw [script_bind]
  rcases p.run.run r with ⟨_ | _, r'⟩ <;> rfl

private def finished (outcomes : Outcomes) (step : RunbookStep) : RunbookStepResult :=
  { stepId := step.id, actionType := step.actionType, outcome := outcomes step }

theorem script_through (outcomes : Outcomes) (r : Recorded) (step : RunbookStep)
    (f : RunbookStepResult → ScriptM α) (through : interruptionAt stop r.length = none) :
    (script outcomes stop step >>= f).run.run r =
      (f (finished outcomes step)).run.run (r ++ [step.id]) := by
  have answered : (script outcomes stop step).run.run r =
      (scriptAnswer outcomes step (interruptionAt stop r.length)).run.run (r ++ [step.id]) :=
    rfl
  rw [script_bind, answered, through]
  rfl

/-- The interrupted step stays the last one on record, whatever is done with its result. -/
theorem script_cut {n : ℕ} {r : Recorded} (here : r.length = n) (step : RunbookStep)
    (kind : Interruption) (f : RunbookStepResult → ScriptM α)
    (parks : ∀ result recorded, result.outcome = .waiting →
      ((f result).run.run recorded).2 = recorded) :
    ((script outcomes (some (n, kind)) step >>= f).run.run r).2 = r ++ [step.id] := by
  have answered : (script outcomes (some (n, kind)) step).run.run r =
      (scriptAnswer outcomes step (some kind)).run.run (r ++ [step.id]) := by
    change (scriptAnswer outcomes step (interruptionAt _ r.length)).run.run _ = _
    rw [interruptionAt, if_pos here]
  rw [script_bind, answered]
  cases kind with
  | crash => rfl
  | waiting => exact parks _ _ rfl

end Script

namespace Runbook

variable {rb : Runbook} {outcomes : Outcomes} {start : Option StepId}

/-- **The runner on a script.** It executes the visited steps, in order, and ends with
their outcome. -/
theorem walk_script (rb : Runbook) (outcomes : Outcomes) (start : Option StepId)
    (steps : List RunbookStep) (r : Recorded) :
    ∃ results, (rb.walk (script outcomes none) start steps).run.run r =
      (.ok (results, (rb.visited outcomes start steps).2),
        r ++ stepIds (rb.visited outcomes start steps).1) := by
  induction steps generalizing r with
  | nil => exact ⟨[], by simp [walk, visited, stepIds]; rfl⟩
  | cons step rest ih =>
    rw [walk, visited]
    split
    · obtain ⟨results, ran⟩ := ih r
      rw [script_bind, ran]
      exact ⟨_, rfl⟩
    rw [script_through _ r step _ rfl, finished]
    cases ended : outcomes step with
    | waiting => exact ⟨_, rfl⟩
    | success =>
      obtain ⟨results, ran⟩ := ih (r ++ [step.id])
      simp only [script_bind, ran, List.append_assoc]
      exact ⟨_, rfl⟩
    | failure | skipped =>
      rcases found : rb.fallbackOf step with _ | fallback
      · exact ⟨_, rfl⟩
      have ran := fun f : _ → ScriptM (List RunbookStepResult × RunbookStepOutcome) =>
        script_through outcomes (r ++ [step.id]) fallback f
          (show interruptionAt none _ = none from rfl)
      simp only [ran, List.append_assoc]
      exact ⟨_, rfl⟩

/-- **The runner on an interrupted script.** The visited steps up to the interrupted one
are on record, and no other. -/
theorem walk_interrupted {n : ℕ} {kind : Interruption} (steps : List RunbookStep)
    (r : Recorded) (started : r.length ≤ n)
    (within : n < r.length + (rb.visited outcomes start steps).1.length) :
    ((rb.walk (script outcomes (some (n, kind))) start steps).run.run r).2 =
      r ++ stepIds ((rb.visited outcomes start steps).1.take (n + 1 - r.length)) := by
  induction steps generalizing r with
  | nil => simp only [visited, List.length_nil] at within; omega
  | cons step rest ih =>
    rw [walk]
    rw [visited] at within ⊢
    by_cases passed : rb.passesOver start step
    · rw [if_pos passed] at within ⊢
      exact (script_map _ _ r).trans (by simpa only [if_pos passed] using ih r started within)
    rw [if_neg passed] at within ⊢
    simp only [if_neg passed]
    rcases Nat.eq_or_lt_of_le started with rfl | later
    · rw [script_cut rfl step kind _ (by rintro result recorded waits; rw [waits]; rfl)]
      cases outcomes step <;> simp [stepIds]
    rw [script_through _ r step _ (by simp only [interruptionAt]; rw [if_neg (by omega)]), finished]
    have started' : (r ++ [step.id]).length ≤ n := by
      rw [List.length_append, List.length_singleton]; exact later
    obtain ⟨k, rfl⟩ := Nat.exists_eq_add_of_lt later
    have count : r.length + k + 1 + 1 - r.length = k + 1 + 1 := by omega
    have count' : r.length + k + 1 + 1 - (r ++ [step.id]).length = k + 1 := by
      rw [List.length_append, List.length_singleton]; omega
    rw [count]
    cases ended : outcomes step with
    | waiting => simp only [ended, List.length_singleton] at within; omega
    | success =>
      simp only [ended, List.length_cons] at within ⊢
      have within' : r.length + k + 1 < (r ++ [step.id]).length +
          (rb.visited outcomes start rest).1.length := by
        rw [List.length_append, List.length_singleton]; omega
      rw [script_map, ih _ started' within', count', List.append_assoc]
      rfl
    | failure | skipped =>
      simp only [ended, List.length_cons] at within ⊢
      rcases found : rb.fallbackOf step with _ | fallback
      · simp only [found, Option.toList_none, List.length_nil] at within; omega
      simp only [found, Option.toList_some, List.length_singleton] at within ⊢
      obtain rfl : k = 0 := by omega
      have here : (r ++ [step.id]).length = r.length + 0 + 1 := by simp
      rw [script_cut here fallback kind _ (fun _ _ _ => rfl), List.append_assoc]
      rfl

/-- A run that starts at a step and is not a fallback's is cut open at any step it
executes: what follows is the walk over the later steps. A fallback it executes ran
because a step failed, and is the last one. -/
theorem visited_cut (forward : ∀ s ∈ start, s ∉ fallbackIds rb.steps)
    {steps : List RunbookStep} (inRunbook : ∀ step ∈ steps, step ∈ rb.steps) {n : ℕ}
    {step : RunbookStep} (at_n : (rb.visited outcomes start steps).1[n]? = some step) :
    (step.id ∉ fallbackIds rb.steps ∧ ∃ pre rest, steps = pre ++ step :: rest ∧
        rb.visited outcomes start (step :: rest) =
          ((rb.visited outcomes start steps).1.drop n, (rb.visited outcomes start steps).2)) ∨
      (step.id ∈ fallbackIds rb.steps ∧ step ∈ rb.steps ∧ step.onFailure = none ∧
        (rb.visited outcomes start steps).1.drop n = [step] ∧
        (rb.visited outcomes start steps).2 = .failure) := by
  induction steps generalizing n with
  | nil => simp [visited] at at_n
  | cons head rest ih =>
    have ih := @ih fun s mem => inRunbook s (List.mem_cons_of_mem _ mem)
    have pass := rb.passesOver_eq forward head
    by_cases passed : rb.passesOver start head
    · have skip : rb.visited outcomes start (head :: rest) = rb.visited outcomes start rest := by
        rw [visited, if_pos passed]
      rw [skip] at at_n ⊢
      rcases ih at_n with ⟨plain, pre, rest', rfl, tail⟩ | isLast
      · exact .inl ⟨plain, head :: pre, rest', rfl, tail⟩
      · exact .inr isLast
    · have plain : head.id ∉ fallbackIds rb.steps := by simpa [passed] using pass
      rcases n with _ | n
      · have first : (rb.visited outcomes start (head :: rest)).1[0]? = some head := by
          rw [visited, if_neg passed]
          cases outcomes head <;> rfl
        obtain rfl := Option.some.inj (first.symm.trans at_n)
        exact .inl ⟨plain, [], rest, rfl, rfl⟩
      rw [visited, if_neg passed] at at_n ⊢
      cases ended : outcomes head with
      | waiting => simp [ended] at at_n
      | success =>
        simp only [ended, List.getElem?_cons_succ, List.drop_succ_cons] at at_n ⊢
        rcases ih at_n with ⟨plain, pre, rest', rfl, tail⟩ | isLast
        · exact .inl ⟨plain, head :: pre, rest', rfl, tail⟩
        · exact .inr isLast
      | failure | skipped =>
        simp only [ended, List.getElem?_cons_succ, List.drop_succ_cons] at at_n ⊢
        rcases found : rb.fallbackOf head with _ | fallback
        · simp [found] at at_n
        obtain ⟨rfl, rfl⟩ : n = 0 ∧ fallback = step := by
          cases n <;> simp_all
        obtain ⟨inSteps, isFallback, last⟩ :=
          rb.of_fallbackOf (inRunbook head List.mem_cons_self) found
        exact .inr ⟨isFallback, inSteps, last, rfl, trivial⟩

/-! ## Re-entry -/

/-- The step a run of a process starts at: the current step on record, and the first step
where none was recorded. -/
def entryStep (rb : Runbook) (recorded : Recorded) : StepId :=
  recorded.getLast?.getD rb.firstStep.id

theorem run_script {stop : Option (ℕ × Interruption)} {pre rest : List RunbookStep}
    {step : RunbookStep} (split : rb.steps = pre ++ step :: rest) :
    rb.executed outcomes stop step.id =
      ((rb.walk (script outcomes stop) (some step.id) (step :: rest)).run.run []).2 := by
  unfold executed scripted run
  rw [rb.activeSteps_append split]
  simp only [script_bind]
  rcases (rb.walk (script outcomes stop) (some step.id) (step :: rest)).run.run [] with ⟨_ | _, _⟩ <;> rfl

/-- What an uninterrupted run executes and ends with. -/
theorem executed_eq (outcomes : Outcomes) {pre rest : List RunbookStep} {step : RunbookStep}
    (split : rb.steps = pre ++ step :: rest) :
    rb.executed outcomes none step.id =
        stepIds (rb.visited outcomes (some step.id) (step :: rest)).1 ∧
      rb.terminal outcomes step.id =
        some (rb.visited outcomes (some step.id) (step :: rest)).2 := by
  obtain ⟨results, ran⟩ :=
    walk_script rb outcomes (some step.id) (step :: rest) []
  refine ⟨by rw [run_script split, ran]; rfl, ?_⟩
  unfold terminal scripted run
  rw [rb.activeSteps_append split]
  simp only [script_bind, ran]
  rfl

/-- What is on record after a run interrupted at the step number `n`. -/
theorem executed_interrupted {pre rest : List RunbookStep} {step : RunbookStep}
    (split : rb.steps = pre ++ step :: rest) {n : ℕ} (kind : Interruption)
    (within : n < (rb.visited outcomes (some step.id) (step :: rest)).1.length) :
    rb.executed outcomes (some (n, kind)) step.id =
      stepIds ((rb.visited outcomes (some step.id) (step :: rest)).1.take (n + 1)) := by
  rw [run_script split, walk_interrupted (step :: rest) [] (Nat.zero_le n) (by simpa using within)]
  rfl

/-- A run that executes nothing succeeds. -/
theorem visited_nil (steps : List RunbookStep)
    (nothing : (rb.visited outcomes start steps).1 = []) :
    (rb.visited outcomes start steps).2 = .success := by
  induction steps with
  | nil => rfl
  | cons step rest ih =>
    rw [visited] at nothing ⊢
    split at nothing <;> rename_i passed
    · rw [if_pos passed]
      exact ih nothing
    · cases ended : outcomes step <;> simp [ended] at nothing

theorem visited_congr {start start' : Option StepId}
    (same : ∀ step, rb.passesOver start step = rb.passesOver start' step)
    (steps : List RunbookStep) :
    rb.visited outcomes start steps = rb.visited outcomes start' steps := by
  induction steps with
  | nil => rfl
  | cons step rest ih => simp only [visited, same, ih]

/-- **Re-entering at a fallback.** The runner goes on past it once it succeeds and parks
where it waits; the first run stopped there with a failure in any case. -/
theorem visited_fallback (rb : Runbook) (outcomes : Outcomes)
    {step : RunbookStep} (last : step.onFailure = none)
    (rest : List RunbookStep) :
    (stepIds (rb.visited outcomes (some step.id) (step :: rest)).1 = [step.id] ∧
        (rb.visited outcomes (some step.id) (step :: rest)).2 = .failure) ↔
      ¬ (outcomes step = .success ∨ outcomes step = .waiting) := by
  have runs : rb.passesOver (some step.id) step = false := by simp [passesOver]
  have none : rb.fallbackOf step = none := by simp [fallbackOf, last]
  rw [visited, runs, if_neg Bool.false_ne_true]
  cases ended : outcomes step with
  | waiting => simp
  | failure | skipped => simp [none, stepIds]
  | success =>
    refine ⟨?_, fun resumes => absurd (.inl rfl) resumes⟩
    rintro ⟨alone, failed⟩
    have nothing : (rb.visited outcomes (some step.id) rest).1 = [] := by
      simpa [stepIds] using alone
    cases failed.symm.trans (visited_nil rest nothing)

/-- The run re-entered after an interruption at the step number `n` executes the steps
the first run had left and ends as it would have. -/
def ReentersFaithfully (rb : Runbook) (outcomes : Outcomes) (kind : Interruption) (n : ℕ) :
    Prop :=
  let recorded := rb.executed outcomes (some (n, kind)) rb.firstStep.id
  let entry := rb.entryStep recorded
  rb.executed outcomes none entry = (rb.executed outcomes none rb.firstStep.id).drop n ∧
    rb.terminal outcomes entry = rb.terminal outcomes rb.firstStep.id

/-- The recorded step is a fallback that goes on to succeed or to wait. -/
def ResumesFallback (rb : Runbook) (outcomes : Outcomes) (recorded : Recorded) : Prop :=
  ∃ step ∈ rb.stepById (rb.entryStep recorded), step.id ∈ fallbackIds rb.steps ∧
    (outcomes step = .success ∨ outcomes step = .waiting)

instance (rb : Runbook) (outcomes : Outcomes) (kind : Interruption) (n : ℕ) :
    Decidable (rb.ReentersFaithfully outcomes kind n) :=
  inferInstanceAs (Decidable (_ ∧ _))

/-- The entry after an interruption is the interrupted step. -/
theorem entryStep_take (rb : Runbook) {steps : List RunbookStep} {step : RunbookStep} {n : ℕ}
    (at_n : steps[n]? = some step) : rb.entryStep (stepIds (steps.take (n + 1))) = step.id := by
  have last : (steps.take (n + 1)).getLast? = some step := by
    rw [List.take_add_one, at_n]
    simp
  rw [entryStep, stepIds, List.getLast?_map, last]
  rfl

theorem reentersFaithfully_iff (rb : Runbook) (outcomes : Outcomes) (kind : Interruption) {n : ℕ}
    (within : n < (rb.executed outcomes none rb.firstStep.id).length) :
    rb.ReentersFaithfully outcomes kind n ↔ ¬ rb.ResumesFallback outcomes
        (rb.executed outcomes (some (n, kind)) rb.firstStep.id) := by
  have split : rb.steps = [] ++ rb.firstStep :: rb.steps.tail :=
    (List.cons_head_tail rb.nonempty).symm
  have forward : ∀ s ∈ some rb.firstStep.id, s ∉ fallbackIds rb.steps := by
    rintro s ⟨⟩
    exact rb.firstStep_not_fallback
  obtain ⟨whole, ends⟩ := executed_eq outcomes split
  rw [whole, stepIds, List.length_map] at within
  obtain ⟨step, at_n⟩ : ∃ step, (rb.visited outcomes (some rb.firstStep.id)
      (rb.firstStep :: rb.steps.tail)).1[n]? = some step :=
    ⟨_, List.getElem?_eq_getElem within⟩
  have recorded := executed_interrupted split kind within
  have entry := entryStep_take rb at_n
  have inRunbook : ∀ s ∈ rb.firstStep :: rb.steps.tail, s ∈ rb.steps := by
    intro s mem
    rw [split]
    exact mem
  simp only [ReentersFaithfully, ResumesFallback, recorded, entry, whole, ends]
  rcases visited_cut forward inRunbook at_n with ⟨plain, pre, rest, tail, cut⟩ |
    ⟨isFallback, inSteps, last, alone, failed⟩
  · obtain ⟨again, ends'⟩ := executed_eq outcomes (split.trans tail)
    have same : rb.visited outcomes (some step.id) (step :: rest) =
        rb.visited outcomes (some rb.firstStep.id) (step :: rest) :=
      visited_congr (fun s => (rb.passesOver_eq (by rintro s ⟨⟩; exact plain) s).trans
        (rb.passesOver_eq forward s).symm) _
    rw [again, ends', same, cut]
    refine ⟨?_, fun _ => ⟨List.map_drop, rfl⟩⟩
    rintro - ⟨s, found, isFallback, -⟩
    have known : step ∈ rb.steps := by rw [split, List.nil_append, tail]; simp
    obtain rfl : step = s := by simpa [rb.stepById_eq known] using found
    exact plain isFallback
  · obtain ⟨pre, rest, split'⟩ := List.append_of_mem inSteps
    obtain ⟨again, ends'⟩ := executed_eq outcomes split'
    have resumes := visited_fallback rb outcomes last rest
    have left : (stepIds (rb.visited outcomes (some rb.firstStep.id)
        (rb.firstStep :: rb.steps.tail)).1).drop n = [step.id] := by
      rw [stepIds, ← List.map_drop, alone]
      rfl
    rw [again, ends', failed, left, Option.some.injEq, resumes, rb.stepById_eq inSteps]
    simp [isFallback]

end Runbook

/-- **When a run can be re-entered.** For every workflow, all outcomes and every point
of interruption, the re-entered run agrees with the uninterrupted one unless the recorded
step is a fallback that succeeds or waits. -/
theorem workflow_reentry (workflow : Workflow) (outcomes : Outcomes) (kind : Interruption)
    (n : ℕ) : ∀ compiled, compileWorkflow workflow = .ok compiled →
      n < (compiled.runbook.executed outcomes none compiled.runbook.firstStep.id).length →
      (compiled.runbook.ReentersFaithfully outcomes kind n ↔
        ¬ compiled.runbook.ResumesFallback outcomes
          (compiled.runbook.executed outcomes (some (n, kind)) compiled.runbook.firstStep.id)) :=
  fun compiled _ within => compiled.runbook.reentersFaithfully_iff outcomes kind within

/-- An action with a fallback, and a step after both. -/
def rollbackWorkflow : Workflow where
  schemaVersion := "1.0.0"
  name := "apply-with-rollback"
  version := "1.0.0"
  versioned := isBlank_version
  steps :=
    [ { id := "apply", actionTypeRef := some "config.apply", onFailure := some "rollback" },
      { id := "rollback", actionTypeRef := some "config.rollback" },
      { id := "announce", actionTypeRef := some "notice.send" } ]

/-- The first action fails, everything else succeeds. -/
def applyFails : Outcomes := fun step => if step.id = "apply" then .failure else .success

/-- A host that crashes while the rollback is in progress: the run ended with a failure
after it, the re-entered run goes on to the step behind it and succeeds. -/
theorem rollback_not_reentered : ∃ compiled, compileWorkflow rollbackWorkflow = .ok compiled ∧
      1 < (compiled.runbook.executed applyFails none compiled.runbook.firstStep.id).length ∧
      ¬ compiled.runbook.ReentersFaithfully applyFails .crash 1 := by
  have evaluated : (match compileWorkflow rollbackWorkflow with
      | .ok compiled =>
        decide (1 < (compiled.runbook.executed applyFails none
          compiled.runbook.firstStep.id).length) &&
        !decide (compiled.runbook.ReentersFaithfully applyFails .crash 1)
      | .error _ => false) = true := by decide +kernel
  cases lowered : compileWorkflow rollbackWorkflow with
  | error e => rw [lowered] at evaluated; cases evaluated
  | ok compiled => exact ⟨compiled, rfl, by simpa [lowered] using evaluated⟩

/-- The same workflow where the crash hits the first action: it is re-entered as it was
left. -/
theorem rollback_reentered_at_apply : ∃ compiled, compileWorkflow rollbackWorkflow = .ok compiled ∧
      compiled.runbook.ReentersFaithfully applyFails .crash 0 := by
  have evaluated : (match compileWorkflow rollbackWorkflow with
      | .ok compiled =>
        decide (0 < (compiled.runbook.executed applyFails none
          compiled.runbook.firstStep.id).length) &&
        !decide (compiled.runbook.entryStep (compiled.runbook.executed applyFails
          (some (0, .crash)) compiled.runbook.firstStep.id) ∈ fallbackIds compiled.runbook.steps)
      | .error _ => false) = true := by decide +kernel
  rcases lowered : compileWorkflow rollbackWorkflow with e | compiled
  · rw [lowered] at evaluated; cases evaluated
  simp only [lowered, Bool.and_eq_true, decide_eq_true_eq, Bool.not_eq_true',
    decide_eq_false_iff_not] at evaluated
  refine ⟨compiled, rfl, ?_⟩
  refine (workflow_reentry rollbackWorkflow applyFails .crash 0 compiled lowered evaluated.1).2 ?_
  rintro ⟨step, found, isFallback, -⟩
  rw [compiled.runbook.id_of_stepById found] at isFallback
  exact evaluated.2 isFallback

/-! ## In order -/

namespace Runbook

variable {rb : Runbook} {outcomes : Outcomes} {start : Option StepId}

/-- **In order**: what was walked is declared in this order, and only the last step of it may have
failed; a fallback is that step's, and comes after it. -/
structure InOrder (rb : Runbook) (outcomes : Outcomes) (steps walked fallback : List RunbookStep) :
    Prop where
  declared : walked.Sublist steps
  plain : ∀ step ∈ walked, step.id ∉ fallbackIds rb.steps
  succeeded : ∀ step ∈ walked.dropLast, outcomes step = .success
  failed : fallback = [] ∨ ∃ step handler, walked.getLast? = some step ∧ fallback = [handler] ∧
    rb.fallbackOf step = some handler ∧ outcomes step ≠ .success

theorem visited_inOrder (forward : ∀ s ∈ start, s ∉ fallbackIds rb.steps)
    (steps : List RunbookStep) : ∃ walked fallback,
      (rb.visited outcomes start steps).1 = walked ++ fallback ∧
        InOrder rb outcomes steps walked fallback := by
  induction steps with
  | nil => exact ⟨[], [], rfl, List.Sublist.refl _, by simp, by simp, .inl rfl⟩
  | cons head rest ih =>
    obtain ⟨walked, fallback, split, declared, plain, succeeded, failed⟩ := ih
    have pass := rb.passesOver_eq forward head
    rw [visited]
    by_cases passed : rb.passesOver start head
    · rw [if_pos passed]
      exact ⟨walked, fallback, split, declared.cons _, plain, succeeded, failed⟩
    rw [if_neg passed]
    have isPlain : head.id ∉ fallbackIds rb.steps := by simpa [passed] using pass
    have alone : ∀ step ∈ [head], step.id ∉ fallbackIds rb.steps := by simpa using isPlain
    cases ended : outcomes head with
    | waiting => exact ⟨[head], [], rfl, by simp, alone, by simp, .inl rfl⟩
    | success =>
      refine ⟨head :: walked, fallback, by rw [split]; rfl, declared.cons_cons _, ?_, ?_, ?_⟩
      · exact List.forall_mem_cons.2 ⟨isPlain, plain⟩
      · intro step isEarlier
        cases walked with
        | nil => cases isEarlier
        | cons next walked =>
          rcases List.mem_cons.1 isEarlier with rfl | isEarlier
          · exact ended
          · exact succeeded step isEarlier
      · rcases failed with none_ | ⟨step, handler, isLast, rest⟩
        · exact .inl none_
        · exact .inr ⟨step, handler, by rw [List.getLast?_cons, isLast]; rfl, rest⟩
    | failure | skipped =>
      refine ⟨[head], (rb.fallbackOf head).toList, rfl, by simp, alone, by simp, ?_⟩
      cases found : rb.fallbackOf head with
      | none => exact .inl rfl
      | some handler => exact .inr ⟨head, handler, rfl, rfl, found, by rw [ended]; nofun⟩

end Runbook

end Fdai.Core
