import Fdai.Runbook.Models

/-!
# Runbook runner

The walk over the step list: each step goes to an injected executor, and the fallback of
a step runs when that step fails. A step some other step names as its fallback is
skipped on the forward path, except where the run was asked to start at it.

The runner is written for any monad, so the same definition is run by a scripted
executor, whose results are fixed in advance, and by the workflow step executor, which
calls a shared store.
-/

namespace Fdai.Core

/-- The aggregate row a run appends to the audit log. -/
structure RunbookTerminalAudit where
  runbookId : String
  startStepId : Option StepId
  terminalOutcome : RunbookStepOutcome
  stepOutcomes : List (StepId × RunbookStepOutcome × Option String)

/-- What the runner is constructed with: the executor of a step and the audit log. -/
structure RunbookPorts (m : Type → Type) where
  execute : (runbookId : String) → RunbookStep → m RunbookStepResult
  appendAuditEntry : RunbookTerminalAudit → m Unit

/-- The record of a step that never ran. -/
def skippedResult (reason : String) (step : RunbookStep) : RunbookStepResult :=
  { stepId := step.id, actionType := step.actionType, outcome := .skipped,
    reason := some reason }

namespace Runbook

variable {m : Type → Type} [Monad m] (rb : Runbook)

/-- A fallback is passed over on the forward path unless the run starts at it. -/
def passesOver (startStepId : Option StepId) (step : RunbookStep) : Bool :=
  step.id ∈ fallbackIds rb.steps && startStepId != some step.id

/-- The step that runs when `step` fails. -/
def fallbackOf (step : RunbookStep) : Option RunbookStep :=
  step.onFailure.bind rb.stepById

/-- The steps after a failed one, each recorded as skipped. The fallback already has its
result. -/
def shortCircuited (step : RunbookStep) (rest : List RunbookStep) : List RunbookStepResult :=
  (rest.filter fun skipped => step.onFailure != some skipped.id).map
    (skippedResult "short_circuited_after_failure")

/-- The step loop of `run`: the results of the active steps and the terminal outcome. -/
def walk (execute : RunbookStep → m RunbookStepResult) (startStepId : Option StepId) :
    List RunbookStep → m (List RunbookStepResult × RunbookStepOutcome)
  | [] => pure ([], .success)
  | step :: rest =>
    if rb.passesOver startStepId step then do
      let (results, terminal) ← walk execute startStepId rest
      pure (skippedResult "fallback_not_triggered" step :: results, terminal)
    else do
      let result ← execute step
      match result.outcome with
      | .waiting => pure ([result], .waiting)
      | .success => do
        let (results, terminal) ← walk execute startStepId rest
        pure (result :: results, terminal)
      | .failure | .skipped =>
        match rb.fallbackOf step with
        | none => pure (result :: shortCircuited step rest, .failure)
        | some fallback => do
          let fallbackResult ← execute fallback
          pure (result :: fallbackResult :: shortCircuited step rest, .failure)

/-- The steps from the start step on; `none` where the runbook has no such step. -/
def activeSteps : Option StepId → Option (List RunbookStep)
  | none => some rb.steps
  | some start =>
    if start ∈ stepIds rb.steps then
      some (rb.steps.dropWhile fun step => step.id ≠ start)
    else none

/-- `RunbookRunner.run`. `none` is the error the runner raises, before any step is
executed, on a start step the runbook does not have. -/
def run (ports : RunbookPorts m) (startStepId : Option StepId) : m (Option RunbookResult) :=
  match rb.activeSteps startStepId with
  | none => pure none
  | some active => do
    let (results, terminal) ← rb.walk (ports.execute rb.id) startStepId active
    ports.appendAuditEntry
      { runbookId := rb.id, startStepId, terminalOutcome := terminal
        stepOutcomes := results.map fun r => (r.stepId, r.outcome, r.reason) }
    pure (some { runbookId := rb.id, stepResults := results, terminalOutcome := terminal })

theorem passesOver_eq {start : Option StepId}
    (forward : ∀ s ∈ start, s ∉ fallbackIds rb.steps) (step : RunbookStep) :
    rb.passesOver start step = decide (step.id ∈ fallbackIds rb.steps) := by
  rcases start with _ | s
  · simp [passesOver]
  have apart := forward s rfl
  by_cases isFallback : step.id ∈ fallbackIds rb.steps
  · have : s ≠ step.id := fun same => apart (same ▸ isFallback)
    simp [passesOver, isFallback, this]
  · simp [passesOver, isFallback]

/-- What the constructor guarantees about a fallback that is looked up. -/
theorem of_fallbackOf {step fallback : RunbookStep} (mem : step ∈ rb.steps)
    (found : rb.fallbackOf step = some fallback) :
    fallback ∈ rb.steps ∧ fallback.id ∈ fallbackIds rb.steps ∧ fallback.onFailure = none := by
  obtain ⟨target, named, byId⟩ := Option.bind_eq_some_iff.1 found
  obtain ⟨declared, inSteps, rfl, found'⟩ := rb.exists_fallback mem named
  obtain rfl : fallback = declared := Option.some.inj (byId.symm.trans found')
  have isFallback := rb.mem_fallbackIds mem named
  exact ⟨inSteps, isFallback, rb.unchained fallback inSteps isFallback⟩

/-- The active steps of a run that starts at a step are that step and all later ones. -/
theorem activeSteps_append {pre rest : List RunbookStep} {step : RunbookStep}
    (split : rb.steps = pre ++ step :: rest) :
    rb.activeSteps (some step.id) = some (step :: rest) := by
  have known : step.id ∈ stepIds rb.steps := by simp [stepIds, split]
  have nodup := rb.nodup
  rw [split, stepIds, List.map_append, List.nodup_append] at nodup
  have apart : ∀ s ∈ pre, decide (s.id ≠ step.id) = true := fun s mem => by
    simpa using nodup.2.2 s.id (List.mem_map_of_mem mem) step.id (by simp)
  have dropped : rb.steps.dropWhile (fun s => decide (s.id ≠ step.id)) = step :: rest := by
    rw [split, List.dropWhile_append_of_pos apart]
    simp
  rw [activeSteps, if_pos known, dropped]

end Runbook

end Fdai.Core
