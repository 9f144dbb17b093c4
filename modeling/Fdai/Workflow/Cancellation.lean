import Fdai.Workflow.Calls

/-!
# Cancellation requests

The two checks a cancellation rests on: whether one was requested, and whether a step has
an action outstanding.
-/

namespace Fdai.Core

open Fdai.Providers Fdai.Concurrency

/-- The first cancellation request on record. -/
def cancellationRequest (events : List ProcessEvent) : Option ProcessEvent :=
  events.find? (·.kind = .processCancellationRequested)

/-- A dispatch of the step is on record and no result of the step. Attempts are not told
apart. -/
def hasOutstandingAction (events : List ProcessEvent) (step : StepId) : Bool :=
  if step = "" then false
  else
    let dispatched := events.any fun e => e.kind = .actionDispatched && e.stepId = some step
    let settled := events.any fun e =>
      e.stepId = some step && (e.kind = .stepCompleted || e.kind = .stepFailed)
    dispatched && !settled

/-- A cancellation stops a step that has no action outstanding. -/
def cancellationBlocksNewStep (step : StepId) : Flow Bool := do
  let events ← Flow.events .plain
  pure ((cancellationRequest events).isSome && !hasOutstandingAction events step)

end Fdai.Core
