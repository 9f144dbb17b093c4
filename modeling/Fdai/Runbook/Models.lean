import Mathlib.Data.List.Nodup
import Fdai.Providers.Text

/-!
# Runbook value objects

The step list a workflow is compiled to, with the checks its constructor makes.

* `RunbookStep` — one step; `RunbookStepResult` — its terminal record.
* `Runbook` — an ordered list of steps. Its fields carry what the constructor checks,
  so a runbook with a backward or chained fallback cannot be built.
* `Runbook.create` — the checks themselves, in the order of the source, with the error
  of the first one that fails.
-/

namespace Fdai.Core

/-- Identifier of a step, unique within its runbook. -/
abbrev StepId := String

inductive WorkflowStepKind where
  | action | wait | approval | decision | parallel | gate | evidence
  deriving DecidableEq

/-- Least role that may approve a step. -/
inductive CeilingRole where
  | reader | contributor | approver | owner

/-- A scalar argument of a step. -/
inductive ParamValue where
  | text (value : String)
  | int (value : Int)
  | bool (value : Bool)
  | float (literal : String)

/-- Arguments of a step by name. -/
abbrev Params := List (String × ParamValue)

/-- Terminal outcome of one step. `skipped` marks a step that never ran, `waiting` one
that parked the process until an external signal or decision resumes it. -/
inductive RunbookStepOutcome where
  | success | failure | skipped | waiting
  deriving DecidableEq

structure RunbookStep where
  id : StepId
  actionType : String
  params : Params := []
  onFailure : Option StepId := none
  kind : WorkflowStepKind := .action
  waitFor : Option String := none
  timeoutSeconds : Option ℕ := none
  approvalRole : Option CeilingRole := none
  quorum : ℕ := 1
  noSelfApproval : Bool := true
  outcomes : List String := []
  branches : List String := []
  guardRuleRef : Option String := none

/-- Terminal record of one step. -/
structure RunbookStepResult where
  stepId : StepId
  actionType : String
  outcome : RunbookStepOutcome
  reason : Option String := none

/-- Aggregate record of a run. -/
structure RunbookResult where
  runbookId : String
  stepResults : List RunbookStepResult
  terminalOutcome : RunbookStepOutcome

/-- Structural errors the constructors refuse to proceed on. -/
inductive RunbookRunError where
  | stepFieldsEmpty
  | quorumNotPositive
  | timeoutNotPositive
  | runbookFieldsEmpty
  | noSteps (runbook : String)
  | duplicateStepId (runbook : String) (step : StepId)
  | unknownFallback (runbook : String) (step target : StepId)
  | selfFallback (runbook : String) (step : StepId)
  | backwardFallback (runbook : String) (step target : StepId)
  | chainedFallback (runbook : String) (step target : StepId)

/-- The checks of the step constructor. -/
def RunbookStep.validate (step : RunbookStep) : Except RunbookRunError Unit :=
  if isBlank step.id || isBlank step.actionType then .error .stepFieldsEmpty
  else if step.quorum < 1 then .error .quorumNotPositive
  else if step.timeoutSeconds.any (· < 1) then .error .timeoutNotPositive
  else .ok ()

/-- The identifiers of a step list, in order. -/
def stepIds (steps : List RunbookStep) : List StepId := steps.map RunbookStep.id

/-- The steps some step names as its fallback. -/
def fallbackIds (steps : List RunbookStep) : List StepId :=
  steps.filterMap RunbookStep.onFailure

/-- The first step whose identifier was already taken. -/
def firstDuplicate : List StepId → List RunbookStep → Option StepId
  | _, [] => none
  | seen, step :: rest =>
    if step.id ∈ seen then some step.id else firstDuplicate (step.id :: seen) rest

/-- What the constructor has to say about the fallback of one step. -/
def fallbackIssue (runbook : String) (ids : List StepId) (step : RunbookStep) :
    Option RunbookRunError :=
  match step.onFailure with
  | none => none
  | some target =>
    if target ∉ ids then some (.unknownFallback runbook step.id target)
    else if target = step.id then some (.selfFallback runbook step.id)
    else if ids.idxOf target ≤ ids.idxOf step.id then
      some (.backwardFallback runbook step.id target)
    else none

def chainIssue (runbook : String) (fallbacks : List StepId) (step : RunbookStep) :
    Option RunbookRunError :=
  match step.onFailure with
  | none => none
  | some target =>
    if step.id ∈ fallbacks then some (.chainedFallback runbook step.id target) else none

/-- An ordered list of steps that passed the checks of its constructor. -/
structure Runbook where
  id : String
  steps : List RunbookStep
  description : Option String := none
  schemaVersion : String := "1.0.0"
  /-- At least one step. -/
  nonempty : steps ≠ []
  /-- Step ids are unique within the runbook. -/
  nodup : (stepIds steps).Nodup
  /-- A fallback appears later in the list than the step that names it. -/
  fallback_later : ∀ step ∈ steps, ∀ target, step.onFailure = some target →
    target ∈ stepIds steps ∧ (stepIds steps).idxOf step.id < (stepIds steps).idxOf target
  /-- A fallback declares no fallback of its own. -/
  unchained : ∀ step ∈ steps, step.id ∈ fallbackIds steps → step.onFailure = none

variable {steps : List RunbookStep}

theorem firstDuplicate_eq_none {seen : List StepId} : firstDuplicate seen steps = none ↔
      (stepIds steps).Nodup ∧ ∀ id ∈ stepIds steps, id ∉ seen := by
  induction steps generalizing seen with
  | nil => simp [firstDuplicate, stepIds]
  | cons step rest ih =>
    simp only [firstDuplicate, stepIds, List.map_cons, List.nodup_cons] at ih ⊢
    split
    · rename_i taken
      simp [taken]
    rename_i fresh
    rw [ih]
    constructor
    · rintro ⟨nodup, apart⟩
      refine ⟨⟨fun again => apart _ again List.mem_cons_self, nodup⟩, fun id mem => ?_⟩
      rcases List.mem_cons.1 mem with rfl | mem
      · exact fresh
      · exact fun old => apart id mem (List.mem_cons_of_mem _ old)
    · rintro ⟨⟨unique, nodup⟩, apart⟩
      refine ⟨nodup, fun id mem old => ?_⟩
      rcases List.mem_cons.1 old with rfl | old
      · exact unique mem
      · exact apart id (List.mem_cons_of_mem _ mem) old

variable {step : RunbookStep}

theorem fallbackIssue_eq_none {runbook : String} {ids : List StepId} :
    fallbackIssue runbook ids step = none ↔ ∀ target, step.onFailure = some target →
      target ∈ ids ∧ ids.idxOf step.id < ids.idxOf target := by
  rcases named : step.onFailure with _ | target
  · simp [fallbackIssue, named]
  simp only [fallbackIssue, named, Option.some.injEq, forall_eq']
  split
  · rename_i unknown
    simp [unknown]
  rename_i known
  split
  · rename_i self
    simp [self]
  · split <;> simp_all

theorem chainIssue_eq_none {runbook : String} {fallbacks : List StepId}
    : chainIssue runbook fallbacks step = none ↔
      (step.id ∈ fallbacks → step.onFailure = none) := by
  cases named : step.onFailure <;> simp [chainIssue, named]

/-- Where ids are unique, looking one up finds the step that carries it. -/
theorem find?_of_nodup (nodup : (stepIds steps).Nodup) (mem : step ∈ steps) :
    steps.find? (·.id = step.id) = some step := by
  induction steps with
  | nil => cases mem
  | cons head rest ih =>
    rw [stepIds, List.map_cons, List.nodup_cons] at nodup
    rcases List.mem_cons.1 mem with rfl | mem
    · simp
    have apart : head.id ≠ step.id := fun same =>
      nodup.1 (same ▸ List.mem_map_of_mem mem)
    rw [List.find?_cons_of_neg (by simpa using apart)]
    exact ih nodup.2 mem

theorem idxOf_head (nonempty : steps ≠ []) :
    (stepIds steps).idxOf (steps.head nonempty).id = 0 := by
  cases steps with
  | nil => exact absurd rfl nonempty
  | cons head rest => simp [stepIds]

namespace Runbook

/-- The checks of the constructor, in its order. -/
def create (id : String) (steps : List RunbookStep) (description : Option String)
    (schemaVersion : String) : Except RunbookRunError Runbook :=
  if isBlank id || isBlank schemaVersion then .error .runbookFieldsEmpty
  else if nonempty : steps = [] then .error (.noSteps id)
  else match duplicate : firstDuplicate [] steps with
    | some step => .error (.duplicateStepId id step)
    | none =>
      match fallback : steps.findSome? (fallbackIssue id (stepIds steps)) with
      | some issue => .error issue
      | none =>
        match chain : steps.findSome? (chainIssue id (fallbackIds steps)) with
        | some issue => .error issue
        | none => .ok
          { id, steps, description, schemaVersion, nonempty
            nodup := (firstDuplicate_eq_none.1 duplicate).1
            fallback_later := fun step mem => fallbackIssue_eq_none.1
              (List.findSome?_eq_none_iff.1 fallback step mem)
            unchained := fun step mem => chainIssue_eq_none.1
              (List.findSome?_eq_none_iff.1 chain step mem) }

variable (rb : Runbook)

/-- The step a run starts at when nothing was recorded yet. -/
def firstStep : RunbookStep := rb.steps.head rb.nonempty

/-- `steps_by_id`. -/
def stepById (id : StepId) : Option RunbookStep := rb.steps.find? (·.id = id)

variable {step : RunbookStep}

theorem stepById_eq (mem : step ∈ rb.steps) : rb.stepById step.id = some step :=
  find?_of_nodup rb.nodup mem

theorem id_of_stepById {id : StepId} (found : rb.stepById id = some step) : step.id = id := by
  simpa using List.find?_some found

theorem mem_fallbackIds {target : StepId} (mem : step ∈ rb.steps)
    (named : step.onFailure = some target) : target ∈ fallbackIds rb.steps :=
  List.mem_filterMap.2 ⟨step, mem, named⟩

theorem exists_fallback {target : StepId} (mem : step ∈ rb.steps)
    (named : step.onFailure = some target) :
    ∃ fallback ∈ rb.steps, fallback.id = target ∧ rb.stepById target = some fallback := by
  obtain ⟨fallback, inSteps, rfl⟩ :=
    List.mem_map.1 (rb.fallback_later step mem target named).1
  exact ⟨fallback, inSteps, rfl, rb.stepById_eq inSteps⟩

theorem firstStep_not_fallback : rb.firstStep.id ∉ fallbackIds rb.steps := by
  intro isFallback
  obtain ⟨step, mem, named⟩ := List.mem_filterMap.1 isFallback
  have later := (rb.fallback_later step mem _ named).2
  have front : (stepIds rb.steps).idxOf rb.firstStep.id = 0 := idxOf_head rb.nonempty
  omega

end Runbook

end Fdai.Core
