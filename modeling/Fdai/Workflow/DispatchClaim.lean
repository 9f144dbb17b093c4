import Fdai.Workflow.Calls

/-!
# Dispatch claims of an action

Before a replica hands an action to the dispatcher it appends a *claim* to the journal:
the next generation for the step and attempt, with a lease. A claim whose lease has run
out may be followed by the next generation. The event that records the dispatch closes
the step and attempt for further claims.
-/

namespace Fdai.Core

open Fdai.Providers Fdai.Concurrency

def ofStep (kind : ProcessEventKind) (step : StepId) (attempt : ℕ) (event : ProcessEvent) :
    Bool :=
  event.kind = kind ∧ event.stepId = some step ∧ event.attempt = attempt

def dispatchEvent (events : List ProcessEvent) (step : StepId) (attempt : ℕ) :
    Option ProcessEvent :=
  events.find? (ofStep .actionDispatched step attempt)

def latestDispatchClaim (events : List ProcessEvent) (step : StepId) (attempt : ℕ) :
    Option ProcessEvent :=
  (events.filter (ofStep .actionDispatchClaimed step attempt)).getLast?

/-- The generation of a claim; no claim has generation zero. -/
def claimGeneration : Option ProcessEvent → ℕ
  | none => 0
  | some claim => claim.payload.generation.getD 0

/-- The lease of a claim has run out. -/
def claimExpired (claim : ProcessEvent) (now : Instant) : Bool :=
  match claim.payload.leaseExpiresAt with
  | none => true
  | some expiresAt => expiresAt ≤ now

def claimEvent (step : StepId) (attempt generation : ℕ) (proposalRef : String)
    (lease : ℕ) (now : Instant) : ProcessEvent :=
  { eventId := .step step attempt (.claim generation)
    kind := .actionDispatchClaimed
    idempotencyKey := .event (.step step attempt (.claim generation))
    recordedAt := now
    stepId := some step
    attempt
    payload :=
      { proposalRef := some proposalRef
        generation := some generation
        leaseExpiresAt := some (now + lease) } }

/-- Nothing was dispatched yet and `claim` is the last claim. -/
def isCurrent (events : List ProcessEvent) (claim : ProcessEvent) (step : StepId)
    (attempt : ℕ) : Bool :=
  (dispatchEvent events step attempt).isNone &&
    (latestDispatchClaim events step attempt).any (·.eventId = claim.eventId)

def claimIsCurrent (claim : ProcessEvent) (step : StepId) (attempt : ℕ) : Flow Bool := do
  let events ← Flow.events .plain
  pure (isCurrent events claim step attempt)

/-- Append the next claim generation; `none` while another claim is current. -/
def claimActionDispatch (replica : ℕ) (step : StepId) (attempt : ℕ)
    (proposalRef : String) (lease : ℕ) (now : Instant) : Flow (Option ProcessEvent) := do
  let events ← Flow.events .plain
  if (dispatchEvent events step attempt).isSome then pure none
  else
    let latestClaim := latestDispatchClaim events step attempt
    if latestClaim.any fun claim => !claimExpired claim now then pure none
    else
      let generation := claimGeneration latestClaim + 1
      let claim := claimEvent step attempt generation proposalRef lease now
      let appended ← Flow.appendEvent claim (some replica)
      if !appended then pure none
      else
        let current ← claimIsCurrent claim step attempt
        if !current then pure none else pure (some claim)

def dispatchedEvent (step : StepId) (actionType : String) (attempt : ℕ) (proposalRef : String)
    (params : Params) (claim : ProcessEvent) (recordedAt : Instant) : ProcessEvent :=
  { eventId := .step step attempt .dispatched
    kind := .actionDispatched
    idempotencyKey := .event (.step step attempt .dispatched)
    recordedAt
    causationId := some claim.eventId
    stepId := some step
    attempt
    payload :=
      { proposalRef := some proposalRef
        actionType := some actionType
        params := some params } }

def recordActionDispatched (step : RunbookStep) (attempt : ℕ) (proposalRef : String)
    (params : Params) (claim : ProcessEvent) (recordedAt : Instant) : Flow Bool :=
  Flow.appendEvent
    (dispatchedEvent step.id step.actionType attempt proposalRef params claim recordedAt)

end Fdai.Core
