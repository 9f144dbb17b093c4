import Fdai.Runbook.Models

/-!
# Workflows and their compiler

A workflow is the catalog's declaration of a process. `Workflow` carries what the
catalog's validators check, so only a declaration the loader accepts can be built;
`compileWorkflow` lowers it to a runbook and the map of compensating actions.

The catalog does not check for a fallback with a fallback of its own. The runbook does,
so the compiler can refuse an accepted workflow.
-/

namespace Fdai.Core

/-- Autonomy mode at the time of processing. -/
inductive Mode where
  | shadow | enforce
  deriving DecidableEq

/-- The name of a kind, as the compiler puts it into an action type. -/
def WorkflowStepKind.value : WorkflowStepKind → String
  | .action => "action"
  | .wait => "wait"
  | .approval => "approval"
  | .decision => "decision"
  | .parallel => "parallel"
  | .gate => "gate"
  | .evidence => "evidence"

/-- One step of a workflow declaration. -/
structure WorkflowStep where
  id : StepId
  kind : WorkflowStepKind := .action
  actionTypeRef : Option String := none
  guardRuleRef : Option String := none
  gateRef : Option String := none
  compensatedBy : Option String := none
  onFailure : Option StepId := none
  params : Params := []
  waitFor : Option String := none
  timeoutSeconds : Option ℕ := none
  approvalRole : Option CeilingRole := none
  quorum : ℕ := 1
  noSelfApproval : Bool := true
  outcomes : List String := []
  branches : List String := []

/-- What the kind validator of a step can find. -/
inductive WorkflowStepIssue where
  | selfApproval
  | actionTypeMissing
  | actionTypeForbidden (kind : WorkflowStepKind)
  | waitFieldsMissing
  | approvalFieldsMissing
  | outcomesNotUnique
  | branchesNotUnique
  | gateRefMissing
  | evidenceParamsMissing (missing : List String)
  | compensationNotOnAction

namespace WorkflowStep

/-- The fields one kind of step must or must not declare. -/
def kindIssue (step : WorkflowStep) : Option WorkflowStepIssue :=
  match step.kind with
  | .action => none
  | .wait =>
    if step.waitFor.isNone || step.timeoutSeconds.isNone then some .waitFieldsMissing else none
  | .approval =>
    if step.approvalRole.isNone || step.timeoutSeconds.isNone then
      some .approvalFieldsMissing
    else none
  | .decision =>
    if step.outcomes.length < 2 ∨ ¬ step.outcomes.Nodup then some .outcomesNotUnique else none
  | .parallel =>
    if step.branches.length < 2 ∨ ¬ step.branches.Nodup then some .branchesNotUnique else none
  | .gate => if step.gateRef.isNone then some .gateRefMissing else none
  | .evidence =>
    let missing := ["policy_id", "policy_version", "source_url"].filter
      fun name => !step.params.any (·.1 == name)
    if missing ≠ [] then some (.evidenceParamsMissing missing) else none

/-- `_kind_contract`: the first issue of a step. -/
def kindContract (step : WorkflowStep) : Option WorkflowStepIssue :=
  if !step.noSelfApproval then some .selfApproval
  else if step.kind = .action ∧ step.actionTypeRef = none then some .actionTypeMissing
  else if step.kind ≠ .action ∧ step.actionTypeRef ≠ none then
    some (.actionTypeForbidden step.kind)
  else match step.kindIssue with
    | some issue => some issue
    | none =>
      if step.compensatedBy ≠ none ∧ step.kind ≠ .action then some .compensationNotOnAction
      else none

/-- A label of a decision outcome or a branch: `[a-z][a-z0-9_-]{0,63}`. -/
def isLabel (label : String) : Bool :=
  match label.toList with
  | [] => false
  | c :: cs => c.isLower && cs.length ≤ 63 &&
      cs.all fun d => d.isLower || d.isDigit || d == '_' || d == '-'

/-- What the catalog checks of one step. Texts are stripped before they are checked, so
an id or a reference that is present is not blank. -/
structure Accepted (step : WorkflowStep) : Prop where
  id : isBlank step.id = false
  actionTypeRef : ∀ ref ∈ step.actionTypeRef, isBlank ref = false
  quorum : 1 ≤ step.quorum
  timeoutSeconds : ∀ seconds ∈ step.timeoutSeconds, 1 ≤ seconds
  outcomes : ∀ label ∈ step.outcomes, isLabel label
  branches : ∀ label ∈ step.branches, isLabel label
  kindContract : step.kindContract = none

instance (step : WorkflowStep) : Decidable step.Accepted :=
  decidable_of_iff (isBlank step.id = false ∧
      (∀ ref ∈ step.actionTypeRef, isBlank ref = false) ∧ 1 ≤ step.quorum ∧
      (∀ seconds ∈ step.timeoutSeconds, 1 ≤ seconds) ∧ (∀ label ∈ step.outcomes, isLabel label) ∧
      (∀ label ∈ step.branches, isLabel label) ∧ step.kindContract = none)
    ⟨fun ⟨id, ref, quorum, seconds, outcomes, branches, kind⟩ =>
      ⟨id, ref, quorum, seconds, outcomes, branches, kind⟩,
     fun ⟨id, ref, quorum, seconds, outcomes, branches, kind⟩ =>
      ⟨id, ref, quorum, seconds, outcomes, branches, kind⟩⟩

end WorkflowStep

/-- A workflow the catalog's loader accepts. -/
structure Workflow where
  schemaVersion : String
  name : String
  version : String
  defaultMode : Mode := .shadow
  steps : List WorkflowStep
  description : Option String := none
  /-- What the pattern of a version gives. -/
  versioned : isBlank schemaVersion = false := by decide +kernel
  /-- What the pattern of a name gives. -/
  named : isBlank name = false := by decide +kernel
  nonempty : steps ≠ [] := by decide +kernel
  accepted : ∀ step ∈ steps, step.Accepted := by decide +kernel
  /-- Step ids are unique. -/
  nodup : (steps.map WorkflowStep.id).Nodup := by decide +kernel
  /-- A fallback appears later than the step that names it. -/
  fallback_later : ∀ step ∈ steps, ∀ target ∈ step.onFailure, target ∈ steps.map WorkflowStep.id ∧
      (steps.map WorkflowStep.id).idxOf step.id < (steps.map WorkflowStep.id).idxOf target := by
    decide +kernel

theorem isBlank_version : isBlank "1.0.0" = false := by decide +kernel

/-- A workflow lowered to an executable form. -/
structure CompiledWorkflow where
  runbook : Runbook
  /-- The compensating action of each step that declares one. -/
  compensations : List (StepId × String)
  defaultMode : Mode

def compileStep (step : WorkflowStep) : RunbookStep :=
  { id := step.id
    actionType := step.actionTypeRef.getD ("workflow." ++ step.kind.value)
    params := step.params
    onFailure := step.onFailure
    kind := step.kind
    waitFor := step.waitFor
    timeoutSeconds := step.timeoutSeconds
    approvalRole := step.approvalRole
    quorum := step.quorum
    noSelfApproval := step.noSelfApproval
    outcomes := step.outcomes
    branches := step.branches
    guardRuleRef := step.gateRef <|> step.guardRuleRef }

/-- The compensating actions the steps of a workflow declare. -/
def compensationsOf (workflow : Workflow) : List (StepId × String) :=
  workflow.steps.filterMap fun step => step.compensatedBy.map (step.id, ·)

/-- Lower a workflow. The constructors of the steps and of the runbook re-validate. -/
def compileWorkflow (workflow : Workflow) : Except RunbookRunError CompiledWorkflow := do
  let steps := workflow.steps.map compileStep
  forM steps RunbookStep.validate
  let runbook ← Runbook.create workflow.name steps workflow.description workflow.schemaVersion
  pure { runbook, compensations := compensationsOf workflow, defaultMode := workflow.defaultMode }

end Fdai.Core
